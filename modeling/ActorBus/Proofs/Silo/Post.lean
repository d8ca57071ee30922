import ActorBus.Proofs.Actor.Seat
import ActorBus.Proofs.Silo.Counted
import ActorBus.Proofs.Silo.Worker
import ActorBus.Proofs.Workload.Answers

/-!
# An actor at its post

A post is a place for an actor whose workload answers. Whatever arrives, and in whatever order the
relay, the census and the workers take their steps, the actor takes in what it listens to, one
message after the other (`AtPost`). It goes on until it takes in a stop order, and then it stops
(`Mans`). Others can bring it messages, but they cannot make it leave.
-/

set_option autoImplicit false

namespace ActorBus

variable {ω σ : Type}

/-- A message that the actor listens to and that orders no stop. -/
def Profile.serves (p : Profile) (m : Message) : Bool :=
  p.hears m && !Message.ordersStop p.codec m

/-- What an actor serves it hears. -/
theorem Profile.hears_of_serves {p : Profile} {m : Message} (h : p.serves m = true) :
    p.hears m = true := by
  rw [serves, Bool.and_eq_true] at h
  exact h.1

/-- A place in a silo: who the actor is, what it does, and what it counts in its properties. -/
structure Post (ω σ : Type) where
  profile : Profile
  workload : Workload ω σ
  tally : Properties → Nat
  /-- What a message can add to the count. -/
  weight : Nat

/-- A text that the actor of a post has published on its out route. -/
def Post.reply (post : Post ω σ) (text : String) : Message :=
  .simple post.profile.codec post.profile.outRoute text

namespace Silo

/-- What outsiders publish with an action. -/
def Action.published : Action ω σ → List Message
  | .publish m => [m]
  | _ => []

/-- A step of the silo is a use of it, and publishes nothing of its own. -/
theorem Action.isUse_of_isStep {a : Action ω σ} (h : a.isStep = true) :
    a.isUse = true ∧ a.published = [] := by
  cases a with
  | relay => exact ⟨rfl, rfl⟩
  | census => exact ⟨rfl, rfl⟩
  | forgotten k => exact ⟨rfl, rfl⟩
  | work i => exact ⟨rfl, rfl⟩
  | _ => cases h

/-! ## One post -/

/-- The actor of worker `i` is at its post and reads as `c`. Of what it listens to, it has taken in
`taken`. -/
structure AtPost (post : Post ω σ) (i : Nat) (w : Worker ω σ) (c : Subscriber)
    (taken arrived carried : List Message) (s : Silo ω σ) : Prop where
  hosts : s.Hosts i w c arrived carried
  profile : w.actor.profile = post.profile
  exit : w.exit = none
  running : w.actor.isRunning = true
  workload : w.actor.workload.emptied = post.workload.emptied
  awaits : post.profile.Awaits c
  connected : c.connected = true
  whole : w.actor.state.output.pending = []
  read : carried.filter post.profile.hears = taken ++ c.queue.filter post.profile.hears
  calm : ∀ m ∈ taken, Message.ordersStop post.profile.codec m = false
  counts : post.tally w.actor.state.properties ≤ post.weight * taken.length

/-- The actor of worker `i` is at its post, or has stopped. -/
inductive Mans (post : Post ω σ) (i : Nat) (arrived carried : List Message) (s : Silo ω σ) : Prop
  | going (w : Worker ω σ) (c : Subscriber) (taken : List Message)
      (h : s.AtPost post i w c taken arrived carried)
  | stopped (w : Worker ω σ) (worker : s.factory.workers[i]? = some w)
      (profile : w.actor.profile = post.profile) (exit : w.exit = some .stopped)

/-- Apart from the relay, whoever uses the silo works at one seat. What is published then comes from
outside, or from a worker. -/
theorem Flows.exists_worked {s : Silo ω σ} {arrived carried : List Message}
    (h : s.Flows arrived carried) {a : Action ω σ} (ha : a.isUse = true) (hne : a ≠ .relay) :
    ∃ inbox ms, s.bus.Worked inbox ms (s.act a).bus ∧
      ((∀ i, a ≠ .work i) → ms = a.published.filter (· ≠ [])) := by
  have hlistens (ha : a.listens = true) :
      ∃ inbox, s.bus.Worked inbox [] (s.act a).bus := by
    rcases s.listens_cases ha with hsame | ⟨n, bus, _, _, _, -, hworked, -, -, -, -, -, -, hact⟩
    · exact ⟨0, .of_pipe_eq (by rw [hsame])⟩
    · exact ⟨n, by rw [hact]; exact hworked⟩
  cases a with
  | publish m =>
    obtain ⟨bus, hact, -, -, -, hworked⟩ := exists_worked_publish h.inbound m 0
    refine ⟨0, _, by rw [hact]; exact hworked, fun _ => ?_⟩
    by_cases hm : m = []
    · simp [Action.published, hm]
    · simp [Action.published, hm]
  | callbacks a => exact ⟨0, [], .of_pipe_eq rfl, fun _ => rfl⟩
  | relay => exact absurd rfl hne
  | census =>
    obtain ⟨inbox, hworked⟩ := hlistens rfl
    exact ⟨inbox, [], hworked, fun _ => rfl⟩
  | forgotten k =>
    obtain ⟨inbox, hworked⟩ := hlistens rfl
    exact ⟨inbox, [], hworked, fun _ => rfl⟩
  | threads t => exact ⟨0, [], .of_pipe_eq rfl, fun _ => rfl⟩
  | work k =>
    rcases s.work_cases k with hsame | ⟨w, w', bus, -, hturn, hact⟩
    · exact ⟨0, [], .of_pipe_eq (by rw [hsame]), fun _ => rfl⟩
    · obtain ⟨-, -, -, ms, hworked, -⟩ := Factory.turn_cases hturn
      exact ⟨_, ms, by rw [hact]; exact hworked, fun hturns => absurd rfl (hturns k)⟩
  | _ => cases ha

/-- Using a silo keeps its pipe open. -/
theorem Flows.act_use {s : Silo ω σ} {arrived carried : List Message}
    (h : s.Flows arrived carried) {a : Action ω σ} (ha : a.isUse = true) :
    (s.act a).Flows (arrived ++ s.arrivals a) (carried ++ s.carried a) := by
  by_cases hrelay : a = .relay
  · subst hrelay
    rw [show s.arrivals .relay = [] from rfl, List.append_nil]
    exact h.relay.1
  · obtain ⟨inbox, ms, hworked, -⟩ := h.exists_worked ha hrelay
    obtain ⟨harrivals, hcarried, hflows⟩ := h.act hrelay hworked
    rw [harrivals, hcarried, List.append_nil]
    exact hflows

/-- Who has left the loop stays as it is. -/
theorem worker_act_of_exit {s : Silo ω σ} {i : Nat} {w : Worker ω σ}
    (hi : s.factory.workers[i]? = some w) (hexit : w.exit ≠ none) {a : Action ω σ}
    (ha : a.isUse = true) : (s.act a).factory.workers[i]? = some w := by
  rcases s.act_use_cases ha with ⟨hsame, -⟩ | ⟨k, u, u', bus, hk, hturn, hact⟩
  · rw [hsame]
    exact hi
  · have hki : k ≠ i := by
      rintro rfl
      obtain rfl : u = w := Option.some.inj (hk.symm.trans hi)
      exact hexit (Factory.turn_cases hturn).1
    rw [hact]
    exact (List.getElem?_set_ne hki).trans hi

section Turn

variable {i : Nat} {w : Worker ω σ} {c : Subscriber} {arrived carried : List Message}
  {s : Silo ω σ} (h : s.Hosts i w c arrived carried) (hexit : w.exit = none)
  (hawaits : w.actor.profile.Awaits c) (hwhole : w.actor.state.output.pending = [])
  {skipped after : List Message} {m : Message} (hqueue : c.queue = skipped ++ m :: after)
  (hskip : ∀ m ∈ skipped, w.actor.profile.hears m = false)
  (hm : w.actor.profile.hears m = true)

include h hexit hawaits hwhole hqueue hskip hm

/-- In front of a stop order, the turn is the actor's last one. -/
theorem Hosts.turn_stop (hstop : Message.ordersStop w.actor.profile.codec m = true) :
    ∃ w', (s.act (.work i)).factory.workers[i]? = some w' ∧
      w'.actor.profile = w.actor.profile ∧ w'.exit = some .stopped ∧
      s.arrivals (.work i) = [Actor.notice w.actor.profile] := by
  have hturn := Factory.turn_of_hears hexit (Endpoint.subscriber?_of_seat h.seat) hawaits hqueue
    hskip hm
  rw [Actor.handle_of_ordersStop w.actor _ m hstop, Actor.stop_eq w.actor _ hwhole] at hturn
  obtain ⟨-, hprofile, -, ms, hworked, hnotice⟩ := Factory.turn_cases hturn
  have honly := hnotice rfl hwhole h.flows.inbound
  have hact := act_work_of_turn h.worker hturn
  have hlt : i < s.factory.workers.length := (List.getElem?_eq_some_iff.mp h.worker).1
  have harrivals : s.arrivals (.work i) = ms :=
    (h.flows.act (a := .work i) nofun (by rw [hact]; exact hworked)).1
  refine ⟨_, ?_, hprofile, rfl, harrivals.trans honly⟩
  rw [hact]
  exact List.getElem?_set_self hlt

/-- In front of any other message, the actor replies and goes on. -/
theorem Hosts.turn_serve {tally : Properties → Nat} {weight : Nat}
    (hstop : Message.ordersStop w.actor.profile.codec m = false)
    (hanswers : w.actor.workload.Answers w.actor.profile tally weight)
    (hcount : tally w.actor.state.properties + weight < 2 ^ 63) :
    ∃ (w' : Worker ω σ) (texts : List String), Hosts i w' { c with queue := after }
        (arrived ++ s.arrivals (.work i)) carried
        (s.act (.work i)) ∧
      w'.actor.profile = w.actor.profile ∧ w'.exit = none ∧
      w'.actor.isRunning = w.actor.isRunning ∧
      w'.actor.workload.emptied = w.actor.workload.emptied ∧
      w'.actor.state.output.pending = [] ∧
      tally w'.actor.state.properties ≤ tally w.actor.state.properties + weight ∧
      s.arrivals (.work i) =
        texts.map (Message.simple w.actor.profile.codec w.actor.profile.outRoute) := by
  have hturn := Factory.turn_of_hears hexit (Endpoint.subscriber?_of_seat h.seat) hawaits hqueue
    hskip hm
  have houtbound := (Actor.outbound_handle (Message.intake w.actor.profile.codec m) w.actor
    ((s.bus.withOutbound (s.bus.pipe.outbound.modify w.actor.inbox fun _ =>
      { c with queue := after })).report w.actor.profile.id Monitor.received)).2
  obtain ⟨a, b, hhandle, hprofile, -, hemptied, hwhole', htally, texts, hworked⟩ :=
    hanswers.handle (b := s.bus.withOutbound (s.bus.pipe.outbound.modify w.actor.inbox fun _ =>
      { c with queue := after })) hstop hwhole h.flows.inbound hcount
  rw [hhandle] at hturn houtbound
  have hread : s.bus.Worked w.actor.inbox [] (s.bus.withOutbound
      (s.bus.pipe.outbound.modify w.actor.inbox fun _ => { c with queue := after })) := .modify _
  have hboth := hread.trans (hworked w.actor.inbox)
  have hseat : b.pipe.outbound.seats[w.actor.inbox]? =
      some ⟨true, true, { c with queue := after }⟩ :=
    (congrArg (·.seats[w.actor.inbox]?) houtbound).trans (Endpoint.seat_modify h.seat _)
  obtain ⟨hbus, -, hhosts⟩ := h.turn hturn hboth hseat
  have harrivals := (h.flows.act (a := .work i) nofun (by rw [hbus]; exact hboth)).1
  rw [harrivals]
  have hrunning := Factory.isRunning_of_turn hturn rfl
  exact ⟨_, texts, hhosts, hprofile, rfl, hrunning, hemptied, hwhole', htally, rfl⟩

end Turn

/-- Of the messages that have been carried, an actor has served those it has taken in, and serves
one more. -/
theorem length_lt_countP {p : Profile} {carried taken after : List Message} {m : Message}
    (hread : carried.filter p.hears = taken ++ m :: after)
    (hcalm : ∀ m ∈ taken, Message.ordersStop p.codec m = false)
    (hstop : Message.ordersStop p.codec m = false) : taken.length < carried.countP p.serves := by
  have hcount : carried.countP p.serves =
      (carried.filter p.hears).countP fun m => !Message.ordersStop p.codec m := by
    rw [List.countP_filter]
    refine List.countP_congr fun m _ => ?_
    rw [Profile.serves, Bool.and_comm]
  have htaken : taken.countP (fun m => !Message.ordersStop p.codec m) = taken.length := by
    rw [List.countP_eq_length]
    intro m hm
    rw [hcalm m hm]
    rfl
  rw [hcount, hread, List.countP_append, List.countP_cons_of_pos (by simp [hstop]), htaken]
  omega

namespace AtPost

variable {post : Post ω σ} {i : Nat} {w : Worker ω σ} {c : Subscriber}
  {taken arrived carried : List Message} {s : Silo ω σ}
  (h : s.AtPost post i w c taken arrived carried)

include h

/-- What the others do brings messages, and nothing else. -/
theorem aside {a : Action ω σ} (hturn : a.isTurn i = false) :
    (s.act a).AtPost post i w { c with queue := c.queue ++ s.carried a } taken
      (arrived ++ s.arrivals a) (carried ++ s.carried a) :=
  { h with
    hosts := h.hosts.aside hturn
    awaits := ⟨h.awaits.filters, h.awaits.between⟩
    connected := h.connected
    read := by rw [List.filter_append, h.read, List.append_assoc, ← List.filter_append] }

/-- In front of a stop order, the actor stops with its notice. -/
theorem stop {skipped after : List Message} {m : Message} (hqueue : c.queue = skipped ++ m :: after)
    (hskip : ∀ m ∈ skipped, post.profile.hears m = false) (hm : post.profile.hears m = true)
    (hstop : Message.ordersStop post.profile.codec m = true) :
    ∃ w', (s.act (.work i)).factory.workers[i]? = some w' ∧ w'.actor.profile = post.profile ∧
      w'.exit = some .stopped ∧ s.arrivals (.work i) = [Actor.notice post.profile] := by
  have hawaits := h.awaits
  rw [← h.profile] at hawaits hskip hm hstop ⊢
  exact h.hosts.turn_stop h.exit hawaits h.whole hqueue hskip hm hstop

/-- In front of any other message, the actor replies and stays at its post. -/
theorem serve (hanswers : post.workload.Answers post.profile post.tally post.weight)
    (hfew : post.weight * carried.countP post.profile.serves < 2 ^ 63)
    {skipped after : List Message} {m : Message} (hqueue : c.queue = skipped ++ m :: after)
    (hskip : ∀ m ∈ skipped, post.profile.hears m = false) (hm : post.profile.hears m = true)
    (hstop : Message.ordersStop post.profile.codec m = false) :
    ∃ (w' : Worker ω σ) (texts : List String),
      (s.act (.work i)).AtPost post i w' { c with queue := after } (taken ++ [m])
        (arrived ++ s.arrivals (.work i)) (carried ++ s.carried (.work i)) ∧
      s.arrivals (.work i) = texts.map post.reply := by
  have hread : carried.filter post.profile.hears =
      taken ++ m :: after.filter post.profile.hears := by
    rw [h.read, hqueue, List.filter_append, List.filter_eq_nil_iff.mpr (by simpa using hskip),
      List.nil_append, List.filter_cons_of_pos hm]
  -- whatever is counted here has been carried, and not so much has been carried
  have hserved := length_lt_countP hread h.calm hstop
  have hmore := Nat.mul_le_mul_left post.weight hserved
  rw [Nat.mul_succ] at hmore
  have hcounts := h.counts
  have hcount : post.tally w.actor.state.properties + post.weight < 2 ^ 63 := by omega
  have hawaits := h.awaits
  have hcalm := h.calm
  obtain ⟨profile, workload, tally, weight⟩ := post
  obtain rfl : w.actor.profile = profile := h.profile
  obtain ⟨w', texts, hosts', hprofile, hexit, hrunning, hworkload, hwhole, htally, harrivals⟩ :=
    h.hosts.turn_serve h.exit hawaits h.whole hqueue hskip hm hstop
      (hanswers.of_emptied_eq h.workload) hcount
  refine ⟨w', texts, ?_, harrivals⟩
  rw [show s.carried (.work i) = [] from rfl, List.append_nil]
  exact {
    hosts := hosts'
    profile := hprofile
    exit := hexit
    running := hrunning.trans h.running
    workload := hworkload.trans h.workload
    awaits := ⟨hawaits.filters, hawaits.between⟩
    connected := h.connected
    whole := hwhole
    read := by
      rw [hread, List.append_assoc]
      rfl
    calm := fun m' hm' => by
      rcases List.mem_append.mp hm' with hold | hnew
      · exact hcalm m' hold
      · rw [List.mem_singleton.mp hnew]
        exact hstop
    counts := by
      rw [List.length_append, List.length_singleton, Nat.mul_succ]
      exact htally.trans (Nat.add_le_add_right hcounts weight) }

/-- **All that a turn of the actor can be.** It stops with its notice, or it replies and stays at
its post, or it has nothing to do. -/
theorem turn_cases (hanswers : post.workload.Answers post.profile post.tally post.weight)
    (hfew : post.weight * carried.countP post.profile.serves < 2 ^ 63) :
    (∃ w', (s.act (.work i)).factory.workers[i]? = some w' ∧ w'.actor.profile = post.profile ∧
        w'.exit = some .stopped ∧ s.arrivals (.work i) = [Actor.notice post.profile]) ∨
      (∃ (w' : Worker ω σ) (c' : Subscriber) (m : Message) (texts : List String),
        (s.act (.work i)).AtPost post i w' c' (taken ++ [m]) (arrived ++ s.arrivals (.work i))
          (carried ++ s.carried (.work i)) ∧
        s.arrivals (.work i) = texts.map post.reply) ∨
      s.work i = none := by
  rcases post.profile.exists_cut c.queue with ⟨skipped, m, after, hqueue, hskip, hm⟩ | hnone
  · cases hstop : Message.ordersStop post.profile.codec m with
    | true => exact .inl (h.stop hqueue hskip hm hstop)
    | false =>
      obtain ⟨w', texts, hserved, harrivals⟩ := h.serve hanswers hfew hqueue hskip hm hstop
      exact .inr (.inl ⟨w', _, m, texts, hserved, harrivals⟩)
  · right
    right
    have hawaits := h.awaits
    rw [← h.profile] at hawaits hnone
    have hturn := Factory.turn_of_not_hears h.exit (Endpoint.subscriber?_of_seat h.hosts.seat)
      hawaits h.connected hnone
    rw [work, h.hosts.worker, Option.bind_some, hturn]
    rfl

end AtPost

/-- A worker whose loop has ended has no work to do. -/
theorem work_of_exit {s : Silo ω σ} {i : Nat} {w : Worker ω σ}
    (hi : s.factory.workers[i]? = some w) (hexit : w.exit ≠ none) : s.work i = none := by
  rw [work, hi, Option.bind_some, Factory.turn_of_exit s.bus hexit]
  rfl

namespace Mans

variable {post : Post ω σ} {i : Nat} {arrived carried : List Message} {s : Silo ω σ}

/-- What others do leaves a post manned. -/
theorem aside (h : s.Mans post i arrived carried) {a : Action ω σ} (ha : a.isUse = true)
    (hturn : a.isTurn i = false) :
    (s.act a).Mans post i (arrived ++ s.arrivals a) (carried ++ s.carried a) := by
  cases h with
  | going w c taken h => exact .going w _ taken (h.aside hturn)
  | stopped w hworker hprofile hexit =>
    have hended : w.exit ≠ none := by simp [hexit]
    exact .stopped w (worker_act_of_exit hworker hended ha) hprofile hexit

/-- **The actor's own turn.** It replies and goes on, or it stops with its notice. -/
theorem turn (h : s.Mans post i arrived carried)
    (hanswers : post.workload.Answers post.profile post.tally post.weight)
    (hfew : post.weight * carried.countP post.profile.serves < 2 ^ 63) :
    (s.act (.work i)).Mans post i (arrived ++ s.arrivals (.work i))
        (carried ++ s.carried (.work i)) ∧
      ((∃ texts : List String, s.arrivals (.work i) = texts.map post.reply) ∨
        s.arrivals (.work i) = [Actor.notice post.profile] ∧ s.announces (.work i) = true) := by
  have hidle (hnone : s.work i = none) :
      (s.act (.work i)).Mans post i (arrived ++ s.arrivals (.work i))
          (carried ++ s.carried (.work i)) ∧
        ((∃ texts : List String, s.arrivals (.work i) = texts.map post.reply) ∨
          s.arrivals (.work i) = [Actor.notice post.profile] ∧ s.announces (.work i) = true) := by
    have hsame : s.act (.work i) = s := by
      rw [act, hnone]
      rfl
    have harrivals := arrivals_eq_nil hsame
    refine ⟨?_, .inl ⟨[], harrivals⟩⟩
    rw [harrivals, hsame, show s.carried (.work i) = [] from rfl, List.append_nil, List.append_nil]
    exact h
  cases h with
  | stopped w hworker hprofile hexit => exact hidle (work_of_exit hworker (by simp [hexit]))
  | going w c taken h =>
    rcases h.turn_cases hanswers hfew with
      ⟨w', hworker, hprofile, hexit, harrivals⟩ | ⟨w', c', m, texts, hserved, harrivals⟩ | hnone
    · refine ⟨.stopped w' hworker hprofile hexit, .inr ⟨harrivals, ?_⟩⟩
      rw [announces, hworker, Option.any_some, Worker.hasAnnounced, hexit]
      rfl
    · exact ⟨.going w' c' _ hserved, .inl ⟨texts, harrivals⟩⟩
    · exact hidle hnone

end Mans

end Silo

end ActorBus
