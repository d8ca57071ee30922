import ActorBus.Proofs.Service.Answers
import ActorBus.Proofs.Service.CustomerStore
import ActorBus.Proofs.Silo.Calls
import ActorBus.Proofs.Silo.Crew
import ActorBus.Proofs.Silo.Rest
import ActorBus.Proofs.Silo.StopOrders
import ActorBus.Service.Suite

/-!
# Shutting down a silo of services

The suite starts as a crew of four services (`crewed_startSuite`). Then anything can happen: texts
are said to any address, clients save customers, orders to stop come early, and the relay, the
census and the actors take their steps in any order (`Event`). As long as nobody outside speaks at
the departure address, the actors can only leave through a stop order. So once each service has been
ordered to stop and nobody has anything left to do, all four have stopped, and stopping the silo
names each of them once (`suite_shuts_down`).
-/

set_option autoImplicit false

namespace ActorBus

variable {ω σ : Type}

namespace Silo

/-- New blueprints that fit a silo can all be registered, and go in the order of their names. -/
theorem Prepared.registerAll {s : Silo ω σ} (h : s.Prepared) (bps : List (Blueprint ω σ))
    (hencodings : ∀ bp ∈ bps, bp.codec.encoding = s.codec.encoding)
    (hnames : (s.factory.names ++ bps.map (·.name)).Nodup) :
    ∃ s' : Silo ω σ, bps.foldlM (fun s bp => s.register bp) s = .ok s' ∧ s'.Prepared ∧
      s'.config = s.config ∧ s'.bus = s.bus ∧
      s'.factory.blueprints = bps.foldl (fun sorted bp => Factory.insertByName bp sorted)
        s.factory.blueprints := by
  induction bps generalizing s with
  | nil => exact ⟨s, rfl, h, rfl, rfl, rfl⟩
  | cons bp bps ih =>
    have hnew : bp.name ∉ s.factory.names := fun hold =>
      (List.nodup_append.mp hnames).2.2 bp.name hold bp.name List.mem_cons_self rfl
    have hregister := ((s.register_cases bp).resolve_left fun hrefused =>
      hrefused.1 ⟨h.phase, hencodings bp List.mem_cons_self, hnew⟩).2
    have hnext := h.act (a := .register bp) nofun
    rw [Silo.act, hregister] at hnext
    obtain ⟨s', hall, hprepared, hconfig, hbus, hblueprints⟩ := ih hnext
      (fun other hother => hencodings other (List.mem_cons_of_mem bp hother)) (by
        have hperm := (Factory.perm_insertByName bp s.factory.blueprints).map (·.name)
        refine ((hperm.append_right _).trans ?_).nodup_iff.mpr hnames
        exact List.perm_middle.symm)
    refine ⟨s', ?_, hprepared, hconfig, hbus, hblueprints⟩
    rw [List.foldlM_cons, hregister]
    exact hall

end Silo

namespace Service

/-! ## The start -/

section Start

variable (config : Config) (own : ω) (writer : Slot ω (Option LineWriter))
  (lines : Slot σ (List String)) (store : Slot σ MemoryStore)

/-- The post of the first actor of a blueprint. -/
def postOf (bp : Blueprint ω σ) (tally : Properties → Nat) (weight : Nat) : Post ω σ :=
  ⟨Factory.profileOf config.departureAddress bp, bp.workload, tally, weight⟩

/-- The services in the order of their names. The echo service counts. -/
def crew : List (Post ω σ) :=
  [postOf config (blueprint config.codec own "customers" customerAddress
      (customerStore (MemoryStore.store.within store))) (fun _ => 0) 0,
    postOf config (blueprint config.codec own "echo" echoAddress echo) echoCount 1,
    postOf config (blueprint config.codec own "hex" hexAddress hexText) (fun _ => 0) 0,
    postOf config (blueprint config.codec own "reader" journalAddress (lineJournal writer lines))
      (fun _ => 0) 0]

variable {config own writer lines store} in
/-- Each actor of the suite has its own address, and replies under it. -/
theorem routes_of_mem_crew {post : Post ω σ} (h : post ∈ crew config own writer lines store) :
    post.profile.codec = config.codec ∧ post.profile.address ∈ addresses ∧
      post.profile.outRoute = replyAddress post.profile.address := by
  simp only [crew, List.mem_cons, List.not_mem_nil, or_false] at h
  rcases h with rfl | rfl | rfl | rfl
  all_goals exact ⟨rfl, by simp [addresses, postOf, Factory.profileOf, blueprint], rfl⟩

/-- The actors of the suite get along with each other. -/
theorem suits_crew (hdeparture : config.departureAddress = Message.departureAddress) :
    Silo.Suits config (crew config own writer lines store) where
  encodings := fun post hpost => congrArg Codec.encoding (routes_of_mem_crew hpost).1
  departures := by simp [crew, postOf, Factory.profileOf]
  answers := by
    simp only [crew, List.forall_mem_cons]
    exact ⟨customerStore_answers store _, echo_answers _, hexText_answers _,
      lineJournal_answers writer lines _, List.forall_mem_nil _⟩
  replies := fun post hpost other hother => by
    have hapart : ∀ a ∈ addresses, ∀ b ∈ addresses, ¬ a.toList <+: (replyAddress b).toList := by
      decide
    rw [(routes_of_mem_crew hpost).2.2]
    exact hapart _ (routes_of_mem_crew hother).2.1 _ (routes_of_mem_crew hpost).2.1
  notices := fun post hpost => by
    have hapart : ∀ a ∈ addresses, ¬ a.toList <+: Message.departureAddress.toList := by decide
    rw [hdeparture]
    exact hapart _ (routes_of_mem_crew hpost).2.1
  apart := fun post hpost => by
    have hapart :
        ∀ a ∈ addresses, ¬ Message.departureAddress.toList <+: (replyAddress a).toList := by
      decide
    rw [hdeparture, (routes_of_mem_crew hpost).2.2]
    exact hapart _ (routes_of_mem_crew hpost).2.1

/-- The blueprints of the suite in the order of their names. -/
theorem insertAll_blueprints (codec : Codec) (store : Store σ) :
    (blueprints codec own writer lines store).foldl
        (fun sorted bp => Factory.insertByName bp sorted) [] =
      [blueprint codec own "customers" customerAddress (customerStore store),
        blueprint codec own "echo" echoAddress echo, blueprint codec own "hex" hexAddress hexText,
        blueprint codec own "reader" journalAddress (lineJournal writer lines)] := by
  have hhex : ¬ "hex" < "echo" := by decide
  have hcustomers : "customers" < "echo" := by decide
  have hreader : ¬ "reader" < "customers" ∧ ¬ "reader" < "echo" ∧ ¬ "reader" < "hex" := by decide
  simp only [blueprints, blueprint, List.foldl_cons, List.foldl_nil, Factory.insertByName, hhex,
    hcustomers, hreader.1, hreader.2.1, hreader.2.2, if_true, if_false]

/-- The suite can be set up. -/
theorem exists_setUp (surroundings : σ) (store : Store σ) (threads : Threads) :
    ∃ s : Silo ω σ, registerSuite own writer lines store
        ((Silo.create config surroundings).act (.threads threads)) = .ok s ∧
      s.Prepared ∧ s.config = config ∧ s.bus.threads = threads ∧
      s.bus.pipe = .bind config.inbound config.outbound ∧
      s.factory.blueprints = (blueprints config.codec own writer lines store).foldl
        (fun sorted bp => Factory.insertByName bp sorted) [] := by
  obtain ⟨s, hregistered, hs, hconfig, hbus, hblueprints⟩ :=
    ((Silo.prepared_create config surroundings).act (a := .threads threads) nofun).registerAll
      (blueprints config.codec own writer lines store)
      (by simp [blueprints, blueprint, Silo.codec, Silo.create, Silo.act]) (by
        change ["echo", "hex", "customers", "reader"].Nodup
        decide)
  obtain ⟨instances, hinstance⟩ := ((s.registerInstance_cases writerName
    (Instances.writerConstructor writerName)).resolve_left fun hrefused =>
      hrefused.1 ⟨hs.phase, by rw [hbus]; rfl⟩).2
  have hprepared := hs.act (a := .registerInstance writerName
    (Instances.writerConstructor writerName)) (by simp)
  rw [Silo.act, hinstance] at hprepared
  refine ⟨_, ?_, hprepared, hconfig, congrArg Bus.threads hbus, congrArg Bus.pipe hbus, hblueprints⟩
  unfold registerSuite
  rw [show ((Silo.create config surroundings : Silo ω σ).act (.threads threads)).codec =
    config.codec from rfl, hregistered]
  exact hinstance

variable {config own writer lines} in
/-- **The suite starts** exactly if its monitor does, where it has one, and the silo that has been
set up does. -/
theorem startSuite_ok_iff {threads : Threads} {surroundings : σ} {store : Store σ} {t s : Silo ω σ}
    (hsetUp : registerSuite own writer lines store
      ((Silo.create config surroundings).act (.threads threads)) = .ok t) :
    startSuite threads config own surroundings writer lines store = .ok s ↔
      (config.monitor = true → threads.launch Monitor.threadName Monitor.threadName = .ok ()) ∧
        t.start = (.ok (), s) := by
  have hregistered : registerSuite own writer lines store { (Silo.create config surroundings) with
      bus := { (Silo.create config surroundings).bus with threads } } = .ok t := hsetUp
  unfold startSuite Silo.build
  cases hmonitor : config.monitor with
  | false =>
    simp only [bind, Except.bind, Bool.false_eq_true, if_false, false_implies, true_and]
    rw [hregistered]
    simp only [Except.mapError]
    rcases t.start with ⟨failure | _, silo⟩
    · simp
    · simp
  | true =>
    cases threads.launch Monitor.threadName Monitor.threadName with
    | error failure => simp [bind, Except.bind, Except.mapError]
    | ok _ =>
      simp only [bind, Except.bind, if_true, Except.mapError, forall_const, true_and]
      rw [hregistered]
      simp only
      rcases t.start with ⟨failure | _, silo⟩
      · simp
      · simp

/-- The names of the services ascend. -/
theorem names_setUp {t : Silo ω σ} {store : Store σ}
    (h : t.factory.blueprints = (blueprints config.codec own writer lines store).foldl
      (fun sorted bp => Factory.insertByName bp sorted) []) :
    t.factory.names = ["customers", "echo", "hex", "reader"] := by
  rw [insertAll_blueprints] at h
  unfold Factory.names
  rw [h]
  rfl

/-- **A suite that has started** has its actors at their posts. -/
theorem crewed_startSuite {threads : Threads} {surroundings : σ} {s : Silo ω σ}
    (h : startSuite threads config own surroundings writer lines
      (MemoryStore.store.within store) = .ok s) :
    s.Crewed config (crew config own writer lines store) [] [] [] := by
  obtain ⟨t, hsetUp, hprepared, rfl, -, -, hblueprints⟩ := exists_setUp config own writer lines
    surroundings (MemoryStore.store.within store) threads
  have hstart := ((startSuite_ok_iff hsetUp).mp h).2
  have hok : t.start.1 = .ok () := by rw [hstart]
  have hs : t.act .start = s := congrArg Prod.snd hstart
  have hnames : t.factory.names.Nodup := by
    rw [names_setUp _ _ _ _ hblueprints]
    decide
  obtain ⟨n, bus, news, heq, hnews⟩ := hprepared.start_eq hnames hok
  obtain ⟨n', hphase, -, hopened⟩ := hprepared.start hok
  rw [hs] at heq hphase hopened
  rw [insertAll_blueprints] at hblueprints
  rw [hblueprints] at hnews
  have hworkers : s.factory.workers = news := by rw [heq]
  have hcrew : List.Forall₂ Silo.Enters (crew t.config own writer lines store) news := by
    have henters {bp : Blueprint ω σ} {w : Worker ω σ}
        (hw : w = Factory.newcomer t.config.departureAddress bp w.actor.inbox)
        {tally : Properties → Nat} (hcount : tally .empty = 0) (weight : Nat) :
        Silo.Enters (postOf t.config bp tally weight) w := by
      rw [hw]
      exact ⟨rfl, rfl, rfl, rfl, rfl, hcount⟩
    rcases hnews with _ | ⟨hcustomers, _ | ⟨hecho, _ | ⟨hhex, _ | ⟨hreader, _ | _⟩⟩⟩⟩
    exact .cons (henters hcustomers rfl 0) (.cons (henters hecho rfl 1)
      (.cons (henters hhex rfl 0) (.cons (henters hreader rfl 0) .nil)))
  have hcrewed := Silo.Opened.crewed hopened hphase (hworkers ▸ hcrew)
  rwa [hopened.config] at hcrewed

/-- **The suite starts** where the system refuses no thread, since no name has a zero byte in it. -/
theorem exists_startSuite {threads : Threads} (hwilling : ∀ thread, threads.refusal? thread = none)
    (surroundings : σ) :
    ∃ s : Silo ω σ, startSuite threads .standard own surroundings writer lines
      (MemoryStore.store.within store) = .ok s := by
  obtain ⟨t, hsetUp, hprepared, hconfig, hthreads, hpipe, hblueprints⟩ := exists_setUp .standard own
    writer lines surroundings (MemoryStore.store.within store) threads
  have hnames := names_setUp _ _ _ _ hblueprints
  have hlaunch {thread : String} (hzero : thread.toList.contains '\x00' = false)
      (purpose : String) : threads.launch thread purpose = .ok () := by
    rw [Threads.launch, hzero, hwilling]
    rfl
  have hlaunchable : t.Launchable := by
    refine ⟨fun _ => ?_, ?_, fun bp hbp => ?_⟩
    · rw [hthreads, hpipe]
      exact hlaunch (by decide +kernel) _
    · rw [hthreads, Silo.censusThread, hconfig]
      exact hlaunch (by decide +kernel) _
    · rw [Factory.launchNext, hthreads]
      apply hlaunch
      rw [hblueprints, insertAll_blueprints] at hbp
      simp only [List.mem_cons, List.not_mem_nil, or_false] at hbp
      have hzero : ∀ name ∈ ["customers", "echo", "hex", "reader"],
          (Actor.threadName (Factory.actorId name 1)).toList.contains '\x00' = false := by
        decide +kernel
      rcases hbp with rfl | rfl | rfl | rfl
      all_goals exact hzero _ (by simp [blueprint])
  have hok := (Silo.start_ok_iff hprepared.unclosed (by rw [hnames]; decide)).mpr
    ⟨hprepared.phase, hlaunchable⟩
  refine ⟨t.start.2, (startSuite_ok_iff hsetUp).mpr ⟨fun hmonitor => ?_, Prod.ext hok rfl⟩⟩
  cases hmonitor

end Start

/-! ## What can happen -/

/-- What can happen to a running suite. -/
inductive Event where
  /-- Someone says a text. -/
  | say (address text : String)
  /-- A client publishes its call to save a customer. -/
  | save (customer : Customer) (token : Nat)
  /-- A client gets a token, looks for its answer, or gives up. -/
  | client (a : Callbacks.Action)
  /-- The services at an address are ordered to stop. -/
  | order (address : String)
  | relay
  | census
  /-- A census that has been left behind, of which a suite that has started has none. -/
  | forgotten (k : Nat)
  | work (i : Nat)
  deriving DecidableEq

namespace Event

def apply (s : Silo ω σ) : Event → Silo ω σ
  | .say address text => (Service.say address text s).toOption.getD s
  | .save customer token =>
    (s.publish (saveMessage s.codec customerAddress customer token)).toOption.getD s
  | .client a => { s with bus := { s.bus with callbacks := s.bus.callbacks.act a } }
  | .order address => (s.sendStop address).toOption.getD s
  | .relay => s.relayStep.getD s
  | .census => s.censusStep.getD s
  | .forgotten k => (s.forgottenStep k).getD s
  | .work i => (s.work i).getD s

/-- The event as an action around a silo. -/
def action (codec : Codec) : Event → Silo.Action ω σ
  | .say address text => .publish (.simple codec address text)
  | .save customer token => .publish (saveMessage codec customerAddress customer token)
  | .client a => .callbacks a
  | .order address => .publish (.stop codec address)
  | .relay => .relay
  | .census => .census
  | .forgotten k => .forgotten k
  | .work i => .work i

/-- Nobody outside speaks at the departure address. -/
def isFair : Event → Bool
  | .say address _ => !Message.departureAddress.toList.isPrefixOf address.toList
  | _ => true

/-- The event says a text to the echo service. -/
def tellsEcho : Event → Bool
  | .say address _ => echoAddress.toList.isPrefixOf address.toList
  | _ => false

/-- An event is an action of the silo. -/
theorem apply_eq (s : Silo ω σ) (e : Event) : e.apply s = s.act (e.action s.codec) := by
  cases e <;> rfl

/-- Events are actions of the silo, one after the other. -/
theorem foldl_apply_eq (s : Silo ω σ) (l : List Event) :
    l.foldl apply s = (l.map (action s.codec)).foldl Silo.act s := by
  induction l generalizing s with
  | nil => rfl
  | cons e l ih =>
    have hcodec : (e.apply s).codec = s.codec := by
      unfold Silo.codec
      rw [e.apply_eq, s.config_act]
    rw [List.foldl_cons, List.map_cons, List.foldl_cons, ih, hcodec, e.apply_eq]

/-- An event uses the silo. -/
theorem isUse_action (codec : Codec) (e : Event) :
    (e.action codec : Silo.Action ω σ).isUse = true := by
  cases e <;> rfl

/-- What outsiders publish with the event. -/
def published (codec : Codec) : Event → List Message
  | .say address text => [.simple codec address text]
  | .save customer token => [saveMessage codec customerAddress customer token]
  | .order address => [.stop codec address]
  | _ => []

/-- What an event publishes, its action publishes. -/
theorem published_action (codec : Codec) (e : Event) :
    (e.action codec : Silo.Action ω σ).published = e.published codec := by
  cases e <;> rfl

/-- What events publish, their actions publish. -/
theorem flatMap_published (codec : Codec) (l : List Event) :
    (l.map (action codec)).flatMap (Silo.Action.published (ω := ω) (σ := σ)) =
      l.flatMap (published codec) := by
  rw [List.flatMap_map]
  exact congrArg l.flatMap (funext (published_action codec))

/-- Nobody publishes a notice with a fair event. -/
theorem isNotice_of_published {s : Silo ω σ}
    (hdeparture : s.config.departureAddress = Message.departureAddress) {e : Event}
    (hfair : e.isFair = true) : ∀ m ∈ e.published s.codec, s.isNotice m = false := by
  intro m hm
  cases e with
  | say address text =>
    obtain rfl := List.mem_singleton.mp hm
    refine Silo.isNotice_of_away rfl ?_ _
    rw [hdeparture, ← List.isPrefixOf_iff_prefix, Bool.not_eq_true]
    unfold isFair at hfair
    rwa [Bool.not_eq_true'] at hfair
  | save customer token =>
    obtain rfl := List.mem_singleton.mp hm
    refine Silo.isNotice_of_away rfl ?_ _
    rw [hdeparture]
    decide
  | order address =>
    obtain rfl := List.mem_singleton.mp hm
    exact Silo.isNotice_of_ordersStop (Message.ordersStop_stop rfl address)
  | _ => cases hm

section Echo

variable {p : Profile} (haddress : p.address = echoAddress)

include haddress

/-- An event tells the echo actor one message at most. -/
theorem countP_published_le (e : Event) :
    (e.published p.codec).countP p.serves ≤ if e.tellsEcho then 1 else 0 := by
  cases e with
  | say address text =>
    change List.countP p.serves [_] ≤ _
    rw [List.countP_singleton]
    split
    · next hserves =>
      rw [Profile.serves, Bool.and_eq_true] at hserves
      have hstart := (Profile.hears_iff rfl _ _).mp hserves.1
      rw [haddress, ← List.isPrefixOf_iff_prefix] at hstart
      rw [tellsEcho, if_pos hstart]
    · exact Nat.zero_le _
  | save customer token =>
    have hnot : p.serves (saveMessage p.codec customerAddress customer token) = false := by
      rw [Profile.serves, Bool.and_eq_false_iff, ← Bool.not_eq_true]
      refine .inl fun hhears => ?_
      have hstart := (Profile.hears_iff rfl _ _).mp hhears
      rw [haddress] at hstart
      exact absurd hstart (by decide)
    change List.countP p.serves [_] ≤ _
    rw [List.countP_singleton, hnot]
    exact Nat.zero_le _
  | order address =>
    have hnot : p.serves (.stop p.codec address) = false := by
      rw [Profile.serves, Message.ordersStop_stop rfl, Bool.not_true, Bool.and_false]
    change List.countP p.serves [_] ≤ _
    rw [List.countP_singleton, hnot]
    exact Nat.zero_le _
  | _ => exact Nat.zero_le _

/-- The echo service serves nothing but texts that are said to it. -/
theorem countP_flatMap_published_le (l : List Event) :
    (l.flatMap (published p.codec)).countP p.serves ≤ l.countP tellsEcho := by
  induction l with
  | nil => exact Nat.le_refl 0
  | cons e l ih =>
    rw [List.flatMap_cons, List.countP_append, List.countP_cons, Nat.add_comm (l.countP _)]
    exact Nat.add_le_add (countP_published_le haddress e) ih

end Echo

/-- The silo settles by events. -/
theorem exists_of_settle (s : Silo ω σ) (fuel : Nat) :
    ∃ l : List Event, (∀ e ∈ l, e.isFair = true ∧ e.tellsEcho = false) ∧
      s.settle fuel = l.foldl apply s := by
  obtain ⟨steps, hsteps, hsettle⟩ := s.exists_run_of_settle fuel
  rw [hsettle]
  clear hsettle
  induction steps generalizing s with
  | nil => exact ⟨[], nofun, rfl⟩
  | cons a steps ih =>
    rw [List.forall_mem_cons] at hsteps
    have hevent : ∃ e : Event, (e.isFair = true ∧ e.tellsEcho = false) ∧ e.apply s = s.act a := by
      cases a with
      | relay => exact ⟨.relay, ⟨rfl, rfl⟩, rfl⟩
      | census => exact ⟨.census, ⟨rfl, rfl⟩, rfl⟩
      | forgotten k => exact ⟨.forgotten k, ⟨rfl, rfl⟩, rfl⟩
      | work i => exact ⟨.work i, ⟨rfl, rfl⟩, rfl⟩
      | _ => cases hsteps.1
    obtain ⟨e, he, happly⟩ := hevent
    obtain ⟨l, hl, hrest⟩ := ih (s.act a) hsteps.2
    refine ⟨e :: l, List.forall_mem_cons.mpr ⟨he, hl⟩, ?_⟩
    rw [List.foldl_cons, List.foldl_cons, happly, hrest]

/-- Who waits at a token looks at it in the end, and gives up where there is nothing. -/
theorem exists_of_await (s : Silo ω σ) (fuel token : Nat) :
    ∃ l : List Event, (∀ e ∈ l, e.isFair = true ∧ e.tellsEcho = false) ∧
      (s.await fuel token).2 = l.foldl apply s := by
  obtain ⟨l, hl, hsettle⟩ := exists_of_settle s fuel
  unfold Silo.await
  generalize s.settle fuel = t at hsettle
  rcases htake : t.bus.callbacks.take token with ⟨answer, callbacks⟩
  have hlook : (Event.client (.take token)).apply t =
      { t with bus := { t.bus with callbacks } } := by
    change { t with bus := { t.bus with callbacks := (t.bus.callbacks.take token).2 } } = _
    rw [htake]
  cases answer with
  | empty =>
    refine ⟨l ++ [.client (.take token), .client (.giveUp token)], ?_, ?_⟩
    · simpa [or_imp, forall_and, isFair, tellsEcho] using hl
    · rw [List.foldl_append, ← hsettle, List.foldl_cons, hlook]
      simp only [htake]
      rfl
  | _ =>
    refine ⟨l ++ [.client (.take token)], ?_, ?_⟩
    · simpa [or_imp, forall_and, isFair, tellsEcho] using hl
    · rw [List.foldl_append, ← hsettle, List.foldl_cons, hlook]
      simp only [htake]
      rfl

/-- **A client's save is a run of events**: it gets a token, publishes its call, waits, and looks
for its answer. -/
theorem exists_of_requestSave {s : Silo ω σ} (hopen : s.bus.pipe.inbound.isClosed = false)
    (fuel : Nat) (customer : Customer) :
    ∃ l : List Event, (∀ e ∈ l, e.isFair = true ∧ e.tellsEcho = false) ∧
      (requestSave fuel customerAddress customer s).2 = l.foldl apply s := by
  have hcall := s.call_of_open hopen customerAddress saveHandle
    [Argument.ofCustomer s.codec customer]
  generalize s.bus.callbacks.register.1 = token at hcall
  obtain ⟨l, hl, hawait⟩ := exists_of_await
    ([.client .register, .save customer token].foldl apply s) fuel token
  refine ⟨[.client .register, .save customer token] ++ l, ?_, ?_⟩
  · simpa [isFair, tellsEcho] using hl
  · rw [List.foldl_append, ← hawait]
    unfold requestSave Silo.request Silo.ask
    rw [hcall]
    rfl

end Event

/-! ## Every run -/

section Run

variable {own : ω} {writer : Slot ω (Option LineWriter)} {lines : Slot σ (List String)}
  {store : Slot σ MemoryStore}

/-- Whatever happens, the services stay at their posts. -/
theorem crewed_foldl_apply {config : Config}
    (hdeparture : config.departureAddress = Message.departureAddress) {s : Silo ω σ}
    (h : s.Crewed config (crew config own writer lines store) [] [] []) {l : List Event}
    (hfair : ∀ e ∈ l, e.isFair = true) (hfew : l.countP Event.tellsEcho < 2 ^ 63) :
    (∃ arrived carried, (l.foldl Event.apply s).Crewed config (crew config own writer lines store)
        (l.flatMap (Event.published config.codec)) arrived carried) ∧
      ∀ post ∈ crew config own writer lines store, post.weight *
        (l.flatMap (Event.published config.codec)).countP post.profile.serves < 2 ^ 63 := by
  have hcounts : ∀ post ∈ crew config own writer lines store, post.weight *
      (l.flatMap (Event.published config.codec)).countP post.profile.serves < 2 ^ 63 := by
    have hecho := Event.countP_flatMap_published_le (p := (postOf config
      (blueprint config.codec own "echo" echoAddress (echo : Workload ω σ)) echoCount 1).profile)
      rfl l
    simp only [crew, List.forall_mem_cons]
    refine ⟨?_, ?_, ?_, ?_, nofun⟩
    · exact (Nat.zero_mul _).trans_lt (by decide)
    · exact (Nat.one_mul _).trans_lt (hecho.trans_lt hfew)
    · exact (Nat.zero_mul _).trans_lt (by decide)
    · exact (Nat.zero_mul _).trans_lt (by decide)
  refine ⟨?_, hcounts⟩
  have hcodec : s.codec = config.codec := congrArg Config.codec h.config
  have hrun := h.run (suits_crew config own writer lines store hdeparture)
    (l.map (Event.action s.codec)) ?_ ?_ ?_
  · rw [List.nil_append, Event.flatMap_published, ← Event.foldl_apply_eq, hcodec] at hrun
    exact hrun
  · simp [Event.isUse_action]
  · intro a ha
    obtain ⟨e, he, rfl⟩ := List.mem_map.mp ha
    rw [Event.published_action]
    exact Event.isNotice_of_published ((congrArg _ h.config).trans hdeparture) (hfair e he)
  · rw [List.nil_append, Event.flatMap_published, hcodec]
    exact hcounts

/-- Where every address has got its order, every actor has. -/
theorem ordered_of_mem {config : Config} {l : List Event}
    (horders : ∀ address ∈ addresses, Event.order address ∈ l) :
    ∀ post ∈ crew config own writer lines store,
      ∃ m ∈ l.flatMap (Event.published config.codec), post.profile.hears m = true ∧
        Message.ordersStop post.profile.codec m = true := by
  intro post hpost
  obtain ⟨hcodec, haddress, -⟩ := routes_of_mem_crew hpost
  have hsame := congrArg Codec.encoding hcodec
  refine ⟨.stop config.codec post.profile.address, ?_, ?_, Message.ordersStop_stop hsame _⟩
  · exact List.mem_flatMap.mpr ⟨_, horders _ haddress, List.mem_singleton_self _⟩
  · exact (Profile.hears_iff hsame _ _).mpr List.prefix_rfl

/-- The four actors, each of which has stopped. -/
def departures : List (String × ActorExit) :=
  [("customers#1", .stopped), ("echo#1", .stopped), ("hex#1", .stopped), ("reader#1", .stopped)]

/-- Nobody is live, each of the four actors has announced its departure, so that it has only to
leave its loop if it has not done so, and stopping the silo gives each of them once. -/
structure Told (s : Silo ω σ) : Prop where
  live : s.live = 0
  workers : s.factory.workers.map (fun w => (w.actor.profile.id, w.hasAnnounced)) =
    departures.map fun exit => (exit.1, true)
  exits : s.stop.1 = departures

/-- Moreover, each of the four actors has stopped. -/
structure Departed (s : Silo ω σ) : Prop extends Told s where
  stopped : s.factory.workers.map (fun w => (w.actor.profile.id, w.exit)) =
    departures.map fun exit => (exit.1, some exit.2)

section Ends

variable {config : Config} {s : Silo ω σ} {outside arrived carried : List Message}
  (h : s.Crewed config (crew config own writer lines store) outside arrived carried)

include h

/-- Where all have stopped, stopping the silo says so. -/
theorem exits_eq (hall : ∀ w ∈ s.factory.workers, w.exit = some .stopped) :
    s.factory.workers.map (fun w => (w.actor.profile.id, w.exit)) =
        departures.map (fun exit => (exit.1, some exit.2)) ∧ s.stop.1 = departures := by
  have hids : (crew config own writer lines store).map (·.profile.id) =
      ["customers#1", "echo#1", "hex#1", "reader#1"] := by
    change [Factory.actorId "customers" 1, Factory.actorId "echo" 1, Factory.actorId "hex" 1,
      Factory.actorId "reader" 1] = _
    decide
  have hpair {α : Type} (a : α) : (crew config own writer lines store).map
      (fun post => (post.profile.id, a)) =
        ["customers#1", "echo#1", "hex#1", "reader#1"].map fun id => (id, a) := by
    rw [← hids, List.map_map]
    rfl
  obtain ⟨hworkers, hstop⟩ := h.exits_of_stopped hall
  exact ⟨hworkers.trans (hpair _), hstop.trans (hpair _)⟩

/-- **Once nobody is live**, everybody has announced its departure. -/
theorem departed_of_live (hlive : s.live = 0) : Departed s := by
  have hannounced := h.announced_of_live hlive
  obtain ⟨hworkers, hstop⟩ := exits_eq h fun w hw => h.stopped_of_announced hw (hannounced w hw)
  refine ⟨⟨hlive, ?_, hstop⟩, hworkers⟩
  have hids := congrArg (List.map fun pair => (pair.1, true)) hworkers
  rw [List.map_map, List.map_map] at hids
  refine (List.map_congr_left fun w hw => ?_).trans hids
  exact congrArg (Prod.mk _) (hannounced w hw)

end Ends

/-- **The suite shuts down through the stop protocol**, whatever was sent before. It starts where
the system refuses it no thread, and then texts are said at any address but the departure address,
customers are saved, and services are ordered to stop, while the relay, the census and the actors
take their steps in any order. Wherever each service has been ordered to stop and nobody has
anything left to do, all four actors have departed. As soon as nobody is live, all four have
announced their departure. The shutdown orders them to stop and waits, and if it waits long enough,
it gives each of them once.

The echo service numbers its texts in 63 bits, so it must not be told more. -/
theorem suite_shuts_down (threads : Threads) (own : ω) (surroundings : σ)
    (writer : Slot ω (Option LineWriter)) (lines : Slot σ (List String))
    (store : Slot σ MemoryStore) :
    ((∀ thread, threads.refusal? thread = none) → ∃ s₀ : Silo ω σ,
      startSuite threads .standard own surroundings writer lines
        (MemoryStore.store.within store) = .ok s₀) ∧
    ∀ s₀ : Silo ω σ, startSuite threads .standard own surroundings writer lines
        (MemoryStore.store.within store) = .ok s₀ →
      ∀ l : List Event, (∀ e ∈ l, e.isFair = true) → l.countP Event.tellsEcho < 2 ^ 63 →
        let s := l.foldl Event.apply s₀
        ((∀ address ∈ addresses, .order address ∈ l) → s.step = none → Departed s) ∧
        (s.live = 0 → Told s) ∧
        ∃ n, ∀ fuel, n ≤ fuel → (suiteShutdown fuel s).1 = [("customers#1", .stopped),
          ("echo#1", .stopped), ("hex#1", .stopped), ("reader#1", .stopped)] := by
  refine ⟨fun hwilling => exists_startSuite own writer lines store hwilling surroundings, ?_⟩
  intro s₀ hstart l hfair hfew s
  have hcrewed := crewed_startSuite .standard own writer lines store hstart
  obtain ⟨⟨arrived, carried, hs⟩, -⟩ := crewed_foldl_apply rfl hcrewed hfair hfew
  refine ⟨fun horders hidle => ?_, fun hlive => (departed_of_live hs hlive).toTold, ?_⟩
  · exact departed_of_live hs (hs.at_rest hidle (ordered_of_mem horders)).1
  · -- the orders of the shutdown are events like the others, and so is its waiting
    have hall : ∀ e ∈ l ++ addresses.map Event.order, e.isFair = true := by
      intro e he
      rcases List.mem_append.mp he with hold | hnew
      · exact hfair e hold
      · obtain ⟨address, -, rfl⟩ := List.mem_map.mp hnew
        rfl
    have hsame : (l ++ addresses.map Event.order).countP Event.tellsEcho < 2 ^ 63 := by
      rw [List.countP_append]
      exact hfew
    have hsuits := suits_crew .standard own writer lines store rfl
    obtain ⟨⟨arrived', carried', hordered⟩, hcounts⟩ := crewed_foldl_apply rfl hcrewed hall hsame
    obtain ⟨n, hrest⟩ := Silo.Crewed.exists_rest hsuits hcounts arrived' carried' _ hordered
    refine ⟨n, fun fuel hfuel => ?_⟩
    obtain ⟨arrived'', carried'', hsettled⟩ := hordered.settle hsuits hcounts fuel
    have hlive := (hsettled.at_rest (hrest fuel hfuel) (ordered_of_mem fun address haddress =>
      List.mem_append_right _ (List.mem_map_of_mem haddress))).1
    rw [List.foldl_append] at hsettled hlive
    exact (departed_of_live hsettled hlive).exits

end Run

/-- The echo service is told to stop by a text, the hexadecimal service and the journal get what
they cannot read, and a customer is saved, before all services are ordered to stop. -/
theorem suite_shuts_down_six :
    let lines : Slot (MemoryStore × List String) (List String) :=
      ⟨Prod.snd, fun lines s => (s.1, lines)⟩
    let store : Slot (MemoryStore × List String) MemoryStore :=
      ⟨Prod.fst, fun store s => (store, s.2)⟩
    let told : List Event := [.say "XXXX" "hi", .say "hex" "4f6", .say "lines" "a\nb",
      .save ⟨"Ada", "Lovelace"⟩ 1, .say "XXXX" "STOP", .say "customers" "invoke"]
    let turns : List Event := (List.replicate 5 [.work 0, .work 1, .work 2, .work 3]).flatten
    let l := told ++ addresses.map .order ++ List.replicate 30 .relay ++ turns ++
      List.replicate 20 .relay ++ List.replicate 4 .census
    ∃ s, startSuite .willing .standard none (.empty, []) (.whole (Option LineWriter)) lines
        (MemoryStore.store.within store) = .ok s ∧
      Departed (l.foldl Event.apply s) := by
  intro lines store told turns l
  obtain ⟨hstarts, hall⟩ :=
    suite_shuts_down .willing none (.empty, []) (.whole (Option LineWriter)) lines store
  obtain ⟨s, hstart⟩ := hstarts fun _ => rfl
  have hidle : ((startSuite .willing .standard none (.empty, []) (.whole (Option LineWriter)) lines
      (MemoryStore.store.within store)).toOption.any fun s =>
        (l.foldl Event.apply s).step.isNone) = true := by decide +kernel
  rw [hstart] at hidle
  have hfair : l.all Event.isFair = true := by decide +kernel
  have horders : (addresses.all fun address => .order address ∈ l) = true := by decide +kernel
  have hfew : l.countP Event.tellsEcho < 2 ^ 63 := by decide +kernel
  clear_value l
  rw [List.all_eq_true] at hfair horders
  have hdeparts := (hall s hstart l hfair hfew).1
  refine ⟨s, hstart, hdeparts (by simpa using horders) (Option.isNone_iff_eq_none.mp hidle)⟩

end Service

end ActorBus
