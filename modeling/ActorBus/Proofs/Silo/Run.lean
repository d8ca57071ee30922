import ActorBus.Proofs.Actor.Turn
import ActorBus.Proofs.Callback.Table
import ActorBus.Proofs.Transport.Relay
import ActorBus.Silo.Caller

/-!
# Runs of a silo

Everything that happens around a silo whose pipe is open, one action at a time: it is set up and
started, actors are activated, messages are published, callers use the callbacks, the relay, the
censuses and any of the workers take their steps, and the system changes what it makes of new
threads, in any order. A run is the list of what was done, and a caller's call is two actions, so
that others can come in between (`call_of_open`).

`Flows` says of a running silo what has arrived at its relay and what has been carried across.
Apart from the relay, whoever acts publishes inbound and changes an outbound seat of its own
(`Bus.Worked`), so one lemma tells what becomes of the flow (`Flows.worked`), and the relay's own
step is the other (`Flows.relay`).
-/

set_option autoImplicit false

namespace ActorBus

namespace Silo

variable {ω σ : Type}

/-- A worker takes a turn; none when it has nothing to do. -/
def work (i : Nat) (s : Silo ω σ) : Option (Silo ω σ) :=
  s.factory.workers[i]?.bind fun w =>
    (Factory.turn w s.bus).map fun (w, bus) =>
      { s with factory := { s.factory with workers := s.factory.workers.set i w }, bus }

/-- What can happen around a silo, short of stopping it. -/
inductive Action (ω σ : Type) where
  | register (bp : Blueprint ω σ)
  | registerInstance (name : String) (construct : Constructor)
  | start
  | activate (name : String)
  | publish (m : Message)
  /-- A caller registers a token, or looks at one, or drops it. -/
  | callbacks (a : Callbacks.Action)
  | relay
  | census
  /-- A census that a failed start has left behind. -/
  | forgotten (k : Nat)
  | work (i : Nat)
  /-- The system starts threads from now on as this tells. -/
  | threads (t : Threads)

/-- The silo behind an action; where a call fails, it is what the call leaves. -/
def act (s : Silo ω σ) : Action ω σ → Silo ω σ
  | .register bp => (s.register bp).toOption.getD s
  | .registerInstance name construct => (s.registerInstance name construct).toOption.getD s
  | .start => s.start.2
  | .activate name => (s.activate name).2
  | .publish m => (s.publish m).toOption.getD s
  | .callbacks a => { s with bus := { s.bus with callbacks := s.bus.callbacks.act a } }
  | .relay => s.relayStep.getD s
  | .census => s.censusStep.getD s
  | .forgotten k => (s.forgottenStep k).getD s
  | .work i => (s.work i).getD s
  | .threads threads => { s with bus := { s.bus with threads } }

/-- A new silo after a run. -/
def run (config : Config) (surroundings : σ) (h : List (Action ω σ)) : Silo ω σ :=
  h.foldl act (create config surroundings)

/-- What is counted along a run. -/
def total (count : Silo ω σ → Action ω σ → Nat) : Silo ω σ → List (Action ω σ) → Nat
  | _, [] => 0
  | s, a :: h => count s a + total count (s.act a) h

/-- A step of the workers is the turn of one of them. -/
theorem exists_work_of_stepWorkers {workers workers' : List (Worker ω σ)} {b b' : Bus σ}
    (h : Factory.stepWorkers workers b = some (workers', b')) :
    ∃ i w w', workers[i]? = some w ∧ Factory.turn w b = some (w', b') ∧
      workers' = workers.set i w' := by
  induction workers generalizing workers' with
  | nil => cases h
  | cons w rest ih =>
    rw [Factory.stepWorkers] at h
    cases hturn : Factory.turn w b with
    | some turned =>
      rw [hturn] at h
      cases h
      exact ⟨0, w, turned.1, rfl, hturn, rfl⟩
    | none =>
      rw [hturn, Option.map_eq_some_iff] at h
      obtain ⟨⟨rest', after⟩, hrest, heq⟩ := h
      cases heq
      obtain ⟨i, w', w'', hi, hturn', rfl⟩ := ih hrest
      exact ⟨i + 1, w', w'', hi, hturn', rfl⟩

/-- The relay, a census or a worker acts. -/
def Action.isStep : Action ω σ → Bool
  | .relay | .census | .forgotten _ | .work _ => true
  | _ => false

/-- The silo is left as it has been set up. -/
def Action.isUse : Action ω σ → Bool
  | .publish _ | .callbacks _ | .relay | .census | .forgotten _ | .work _ | .threads _ => true
  | _ => false

/-- The silo is used, and no worker takes a turn. -/
def Action.isAside : Action ω σ → Bool
  | .publish _ | .callbacks _ | .relay | .census | .forgotten _ | .threads _ => true
  | _ => false

/-- Whatever is no worker's turn is done aside. -/
theorem Action.isAside_of_isUse {a : Action ω σ} (ha : a.isUse = true)
    (hturn : ∀ i, a ≠ .work i) : a.isAside = true := by
  cases a with
  | work i => exact absurd rfl (hturn i)
  | _ => exact ha

/-- What is done aside is a use of the silo. -/
theorem Action.isUse_of_isAside {a : Action ω σ} (ha : a.isAside = true) : a.isUse = true := by
  cases a with
  | work i => rfl
  | _ => exact ha

/-- A step of the censuses is one of them. -/
theorem listenersStep_cases {s s' : Silo ω σ} (h : s.listenersStep = some s') :
    s.censusStep = some s' ∨ ∃ k, s.forgottenStep k = some s' := by
  rw [listenersStep, Option.or_eq_some_iff] at h
  rcases h with hcensus | ⟨_, hforgotten⟩
  · exact .inl hcensus
  · obtain ⟨k, _, hk⟩ := List.exists_of_findSome?_eq_some hforgotten
    exact .inr ⟨k, hk⟩

/-- A step of the silo is one of the relay, a census or a worker. -/
theorem step_cases {s s' : Silo ω σ} (h : s.step = some s') :
    s.relayStep = some s' ∨ s.censusStep = some s' ∨ (∃ k, s.forgottenStep k = some s') ∨
      ∃ i, s.work i = some s' := by
  rw [step, Option.or_eq_some_iff, Option.or_eq_some_iff] at h
  rcases h with (hrelay | ⟨_, hlisteners⟩) | ⟨_, hworker⟩
  · exact .inl hrelay
  · exact .inr ((listenersStep_cases hlisteners).imp_right .inl)
  · rw [workerStep, Option.map_eq_some_iff] at hworker
    obtain ⟨⟨factory, bus⟩, hstep, rfl⟩ := hworker
    rw [Factory.step, Option.map_eq_some_iff] at hstep
    obtain ⟨⟨workers, after⟩, hworkers, heq⟩ := hstep
    cases heq
    obtain ⟨i, w, w', hi, hturn, rfl⟩ := exists_work_of_stepWorkers hworkers
    refine .inr (.inr (.inr ⟨i, ?_⟩))
    rw [work, hi, Option.bind_some, hturn]
    rfl

/-- **The silo's own steps are actions** of the relay, a census or a worker. -/
theorem exists_act_of_step {s s' : Silo ω σ} (h : s.step = some s') :
    ∃ a : Action ω σ, a.isStep = true ∧ s.act a = s' := by
  rcases step_cases h with hrelay | hcensus | ⟨k, hforgotten⟩ | ⟨i, hwork⟩
  · exact ⟨.relay, rfl, by rw [act, hrelay]; rfl⟩
  · exact ⟨.census, rfl, by rw [act, hcensus]; rfl⟩
  · exact ⟨.forgotten k, rfl, by rw [act, hforgotten]; rfl⟩
  · exact ⟨.work i, rfl, by rw [act, hwork]; rfl⟩

/-- To settle is a run of such actions. -/
theorem exists_run_of_settle (s : Silo ω σ) (fuel : Nat) :
    ∃ l : List (Action ω σ), (∀ a ∈ l, a.isStep = true) ∧ s.settle fuel = l.foldl act s := by
  induction fuel generalizing s with
  | zero => exact ⟨[], nofun, rfl⟩
  | succ fuel ih =>
    rw [settle]
    cases hstep : s.step with
    | none => exact ⟨[], nofun, rfl⟩
    | some s' =>
      obtain ⟨a, ha, rfl⟩ := exists_act_of_step hstep
      obtain ⟨l, hl, hsettle⟩ := ih (s.act a)
      exact ⟨a :: l, List.forall_mem_cons.mpr ⟨ha, hl⟩, hsettle⟩

/-! ## Setting up -/

/-- A silo is created, or it is refused. -/
theorem ensureCreated_cases (s : Silo ω σ) :
    (s.phase = .created ∧ s.ensureCreated = .ok ()) ∨
      (s.phase ≠ .created ∧ ∃ e, s.ensureCreated = .error e) := by
  rw [ensureCreated]
  cases hphase : s.phase with
  | created => exact .inl ⟨rfl, rfl⟩
  | running => exact .inr ⟨nofun, _, rfl⟩
  | stopped => exact .inr ⟨nofun, _, rfl⟩

/-- Registering adds a blueprint to a silo that has not been started, or changes nothing. -/
theorem act_register_cases (s : Silo ω σ) (bp : Blueprint ω σ) :
    s.act (.register bp) = s ∨
      (s.phase = .created ∧ bp.codec.encoding = s.codec.encoding ∧
        s.act (.register bp) = { s with
          factory := { s.factory with
            blueprints := Factory.insertByName bp s.factory.blueprints } }) := by
  rw [act, register]
  rcases s.ensureCreated_cases with ⟨hphase, hcreated⟩ | ⟨_, e, hcreated⟩
  · by_cases hencoding : bp.codec.encoding = s.codec.encoding
    · by_cases hthere : (s.factory.find? bp.name).isSome = true
      · left
        rw [hcreated, Factory.register, if_pos hthere]
        simp [bind, Except.bind, Except.mapError, Except.toOption, hencoding]
      · right
        refine ⟨hphase, hencoding, ?_⟩
        rw [hcreated, Factory.register, if_neg hthere]
        simp [bind, Except.bind, Except.mapError, Except.toOption, hencoding]
    · left
      rw [hcreated]
      simp [bind, Except.bind, Except.toOption, hencoding]
  · left
    rw [hcreated]
    rfl

/-- Registering a constructor changes the constructors alone, and only before the start. -/
theorem act_registerInstance_cases (s : Silo ω σ) (name : String) (construct : Constructor) :
    s.act (.registerInstance name construct) = s ∨
      (s.phase = .created ∧ ∃ instances, s.act (.registerInstance name construct) =
        { s with bus := { s.bus with instances } }) := by
  rw [act, registerInstance]
  rcases s.ensureCreated_cases with ⟨hphase, hcreated⟩ | ⟨_, e, hcreated⟩
  · cases hregister : s.bus.instances.register name construct with
    | error e =>
      left
      rw [hcreated]
      rfl
    | ok instances =>
      right
      refine ⟨hphase, instances, ?_⟩
      rw [hcreated]
      rfl
  · left
    rw [hcreated]
    rfl

/-- A running silo is not started again. -/
theorem act_start_of_running {s : Silo ω σ} (h : s.phase = .running) : s.act .start = s := by
  rw [act, start, ensureCreated, h]

/-! ## What has arrived and what has been carried -/

/-- The messages that wait in the queue of the relay. -/
def relayQueue (s : Silo ω σ) : List Message :=
  (s.bus.pipe.relay.bind fun r => s.bus.pipe.inbound.subscriber? r.input).elim [] (·.queue)

/-- The messages that an action adds to those that arrive at the relay. -/
def arrivals (s : Silo ω σ) : Action ω σ → List Message
  | .relay => []
  | a => (s.act a).relayQueue.drop s.relayQueue.length

/-- The messages that an action carries across. -/
def carried (s : Silo ω σ) : Action ω σ → List Message
  | .relay => s.bus.pipe.carriedBy.toList
  | _ => []

/-- The pipe is open and the relay is at work on what has arrived. -/
structure Flows (arrived carried : List Message) (s : Silo ω σ) : Prop where
  inbound : s.bus.pipe.inbound.isClosed = false
  outbound : s.bus.pipe.outbound.isClosed = false
  carries : s.bus.pipe.Carries none arrived carried

namespace Flows

variable {arrived carried : List Message} {s : Silo ω σ}

/-- The relay of the silo is at work. -/
theorem exists_atWork (h : s.Flows arrived carried) :
    ∃ r sub, s.bus.pipe.AtWork none arrived carried r sub := by
  cases h.carries with
  | atWork r sub hwork => exact ⟨r, sub, hwork⟩
  | finished _ _ hclosed =>
    rw [h.inbound] at hclosed
    cases hclosed
  | cut _ _ hclosed =>
    rw [h.outbound] at hclosed
    cases hclosed

/-- **Whoever works on the bus** adds what it publishes to what has arrived. -/
theorem worked (h : s.Flows arrived carried) {s' : Silo ω σ} {inbox : Nat} {ms : List Message}
    (hworked : s.bus.Worked inbox ms s'.bus) : s'.Flows (arrived ++ ms) carried := by
  obtain ⟨r, sub, hwork⟩ := h.exists_atWork
  have hnext := hwork.arrive hworked.whole hworked.inbound
  refine ⟨?_, hworked.outbound.trans h.outbound, .atWork r { sub with queue := sub.queue ++ ms } ?_⟩
  · rw [Endpoint.isClosed_deliverAll hworked.inbound, h.inbound]
  · rw [hworked.pipe]
    exact { hnext with }

/-- Work that publishes nothing keeps the flow. -/
theorem worked_nil (h : s.Flows arrived carried) {s' : Silo ω σ} {inbox : Nat}
    (hworked : s.bus.Worked inbox [] s'.bus) : s'.Flows arrived carried := by
  have hflows := h.worked hworked
  rwa [List.append_nil] at hflows

/-- The flow is told from the pipe alone. -/
theorem congr (h : s.Flows arrived carried) {s' : Silo ω σ} (hpipe : s'.bus.pipe = s.bus.pipe) :
    s'.Flows arrived carried := by
  have hsame : s.bus.Worked 0 [] s'.bus := .of_pipe_eq hpipe
  exact h.worked_nil hsame

/-- What is published stands last in front of the relay. -/
theorem relayQueue_worked (h : s.Flows arrived carried) {s' : Silo ω σ} {inbox : Nat}
    {ms : List Message} (hworked : s.bus.Worked inbox ms s'.bus) :
    s'.relayQueue = s.relayQueue ++ ms := by
  obtain ⟨r, sub, hwork⟩ := h.exists_atWork
  have hrelay : s'.bus.pipe.relay = some r := by
    rw [hworked.pipe]
    exact hwork.relay
  have hseat := Endpoint.seat_deliverAll hwork.seat hworked.inbound
  rw [relayQueue, hrelay, Option.bind_some, Endpoint.subscriber?_of_seat hseat, relayQueue,
    hwork.relay, Option.bind_some, Endpoint.subscriber?_of_seat hwork.seat]
  rfl

/-- **The relay's step** carries what it carries, and changes nothing but the pipe. -/
theorem relay (h : s.Flows arrived carried) :
    (s.act .relay).Flows arrived (carried ++ s.carried .relay) ∧
      (∃ pipe, s.act .relay = { s with bus := { s.bus with pipe } }) ∧
      s.bus.pipe.outbound.deliverAll (s.carried .relay) =
        .ok (s.act .relay).bus.pipe.outbound := by
  rw [act, relayStep, Silo.carried]
  cases hstep : s.bus.pipe.step with
  | none =>
    have hnone : s.bus.pipe.carriedBy = none := by
      rw [Pipe.step_eq, Option.map_eq_none_iff] at hstep
      rw [Pipe.carriedBy, hstep]
      rfl
    rw [hnone, Option.toList_none, List.append_nil]
    exact ⟨h, ⟨s.bus.pipe, rfl⟩, rfl⟩
  | some pipe =>
    have hleaves := Pipe.leaves_step hstep
    refine ⟨⟨hleaves.inbound.trans h.inbound, hleaves.outbound.trans h.outbound,
      h.carries.step hstep⟩, ⟨pipe, rfl⟩, ?_⟩
    change _ = Except.ok pipe.outbound
    rcases Pipe.outbound_step hstep with ⟨hnone, hout⟩ | ⟨m, hsome, hdeliver⟩
    · rw [hnone, hout]
      rfl
    · rw [hsome]
      exact Endpoint.deliverAll_singleton hdeliver

/-- What an action of someone who works on the bus adds is what has been published. -/
theorem act (h : s.Flows arrived carried) {a : Action ω σ} (hne : a ≠ .relay) {inbox : Nat}
    {ms : List Message} (hworked : s.bus.Worked inbox ms (s.act a).bus) :
    s.arrivals a = ms ∧ s.carried a = [] ∧ (s.act a).Flows (arrived ++ ms) carried := by
  have hadded : (s.act a).relayQueue.drop s.relayQueue.length = ms := by
    rw [h.relayQueue_worked hworked, List.drop_left]
  cases a with
  | relay => exact absurd rfl hne
  | _ => exact ⟨hadded, rfl, h.worked hworked⟩

end Flows

/-- Nothing arrives where nothing is done. -/
theorem arrivals_eq_nil {s : Silo ω σ} {a : Action ω σ} (hsame : s.act a = s) :
    s.arrivals a = [] := by
  cases a with
  | relay => rfl
  | _ => simp only [arrivals, hsame, List.drop_length]

/-! ## The actions of those who work on the bus -/

/-- To publish from outside is work at any seat. -/
theorem exists_worked_publish {s : Silo ω σ} (hopen : s.bus.pipe.inbound.isClosed = false)
    (m : Message) (inbox : Nat) :
    ∃ bus, s.act (.publish m) = { s with bus } ∧ bus.callbacks = s.bus.callbacks ∧
      bus.surroundings = s.bus.surroundings ∧ bus.pipe.outbound = s.bus.pipe.outbound ∧
      s.bus.Worked inbox (if m = [] then [] else [m]) bus := by
  rw [act, publish, Bus.publish]
  by_cases hm : m = []
  · subst hm
    exact ⟨s.bus, rfl, rfl, rfl, rfl, .of_pipe_eq rfl⟩
  · rw [if_neg hm, Endpoint.publish_of_open hopen hm]
    exact ⟨_, rfl, rfl, rfl, rfl, .publish hm (Endpoint.deliver_of_open hopen m)⟩

/-- A caller's call is two actions when the inbound side is open: it registers its token, and it
publishes. -/
theorem call_of_open {s : Silo ω σ} (hopen : s.bus.pipe.inbound.isClosed = false)
    (address : String) (handle : MethodHandle) (args : List Argument) :
    s.call address handle args = (s.bus.callbacks.register.1,
      (s.act (.callbacks .register)).act (.publish
        (Message.call s.codec address handle args s.bus.callbacks.register.1))) := by
  have hm : Message.call s.codec address handle args s.bus.callbacks.register.1 ≠ [] :=
    List.cons_ne_nil _ _
  have hsend := Publisher.sendAll_of_pending_eq_nil .fresh s.bus.pipe.inbound _ rfl hm
  rw [Endpoint.deliver_of_open hopen] at hsend
  have hpublish := Endpoint.publish_of_open hopen hm
  rw [Silo.call, Callbacks.call]
  simp only [hsend, act, publish, Bus.publish, hpublish]
  rfl

/-- The worker takes a turn, or nothing happens. -/
theorem work_cases (s : Silo ω σ) (i : Nat) :
    s.act (.work i) = s ∨
      ∃ w w' bus, s.factory.workers[i]? = some w ∧ Factory.turn w s.bus = some (w', bus) ∧
        s.act (.work i) =
          { s with factory := { s.factory with workers := s.factory.workers.set i w' }, bus } := by
  rw [act, work]
  cases hi : s.factory.workers[i]? with
  | none => exact .inl rfl
  | some w =>
    rw [Option.bind_some]
    cases hturn : Factory.turn w s.bus with
    | none => exact .inl rfl
    | some turned => exact .inr ⟨w, turned.1, turned.2, rfl, hturn, rfl⟩

/-- The turn of a worker is what it does to the silo. -/
theorem act_work_of_turn {s : Silo ω σ} {i : Nat} {w w' : Worker ω σ} {bus : Bus σ}
    (hi : s.factory.workers[i]? = some w) (hturn : Factory.turn w s.bus = some (w', bus)) :
    s.act (.work i) =
      { s with factory := { s.factory with workers := s.factory.workers.set i w' }, bus } := by
  rw [act, work, hi, Option.bind_some, hturn]
  rfl

/-- A census at a seat reads and may count, or leaves where nothing can come any more. -/
theorem listen_cases {s s' : Silo ω σ} {n : Nat} {goes : Bool} (h : s.listen n = some (goes, s')) :
    ∃ outbound factory,
      (goes = true ∧ outbound = (s.bus.pipe.outbound.receive n).2 ∨
        goes = false ∧ outbound = (s.bus.pipe.outbound.receive n).2.leave n ∧
          factory = s.factory) ∧
      factory.workers = s.factory.workers ∧ factory.blueprints = s.factory.blueprints ∧
      s' = { s with bus := s.bus.withOutbound outbound, factory } := by
  unfold listen at h
  rcases hread : s.bus.pipe.outbound.receive n with ⟨m | _ | _, outbound⟩
  all_goals rw [hread] at h
  · simp only at h
    split at h
    · cases h
      exact ⟨outbound, { s.factory with census := s.factory.census.depart }, .inl ⟨rfl, rfl⟩, rfl,
        rfl, rfl⟩
    · cases h
      exact ⟨outbound, s.factory, .inl ⟨rfl, rfl⟩, rfl, rfl, rfl⟩
  · cases h
    exact ⟨outbound.leave n, s.factory, .inr ⟨rfl, rfl, rfl⟩, rfl, rfl, rfl⟩
  · cases h

/-- A census at a seat that goes on changes that seat, and it changes no worker and no blueprint. -/
theorem exists_worked_listen {s s' : Silo ω σ} {n : Nat} {goes : Bool}
    (h : s.listen n = some (goes, s')) :
    ∃ bus factory, s.bus.Worked n [] bus ∧ bus.callbacks = s.bus.callbacks ∧
      bus.surroundings = s.bus.surroundings ∧ factory.workers = s.factory.workers ∧
      factory.blueprints = s.factory.blueprints ∧ s' = { s with bus, factory } := by
  obtain ⟨outbound, factory, hreads, hworkers, hblueprints, rfl⟩ := listen_cases h
  have hread : s.bus.Worked n [] (s.bus.withOutbound (s.bus.pipe.outbound.receive n).2) :=
    .read Subscriber.nextMessage
  rcases hreads with ⟨-, rfl⟩ | ⟨-, rfl, -⟩
  · exact ⟨_, factory, hread, rfl, rfl, hworkers, hblueprints, rfl⟩
  · have hleave : s.bus.Worked n []
        (s.bus.withOutbound ((s.bus.pipe.outbound.receive n).2.leave n)) :=
      (hread.trans .leave).congr rfl
    exact ⟨_, factory, hleave, rfl, rfl, hworkers, hblueprints, rfl⟩

/-- The census listens at its seat, and has none any more where it does not go on. -/
theorem censusStep_cases {s s' : Silo ω σ} (h : s.censusStep = some s') :
    ∃ n goes heard, s.census = some n ∧ s.listen n = some (goes, heard) ∧
      s' = if goes then heard else { heard with census := none } := by
  unfold censusStep at h
  cases hn : s.census with
  | none =>
    rw [hn] at h
    cases h
  | some n =>
    rw [hn, Option.bind_eq_bind, Option.bind_some] at h
    obtain ⟨⟨goes, heard⟩, hlisten, heq⟩ := Option.bind_eq_some_iff.mp h
    exact ⟨n, goes, heard, rfl, hlisten, (Option.some.inj heq).symm⟩

/-- A census that has been left behind listens at its own seat. -/
theorem forgottenStep_cases {s s' : Silo ω σ} {k : Nat} (h : s.forgottenStep k = some s') :
    ∃ n goes heard, s.forgotten[k]? = some n ∧ s.listen n = some (goes, heard) ∧
      s' = if goes then heard else { heard with forgotten := heard.forgotten.eraseIdx k } := by
  unfold forgottenStep at h
  cases hn : s.forgotten[k]? with
  | none =>
    rw [hn] at h
    cases h
  | some n =>
    rw [hn, Option.bind_eq_bind, Option.bind_some] at h
    obtain ⟨⟨goes, heard⟩, hlisten, heq⟩ := Option.bind_eq_some_iff.mp h
    exact ⟨n, goes, heard, rfl, hlisten, (Option.some.inj heq).symm⟩

/-- The seats of those that listen for departures. -/
def listeners (s : Silo ω σ) : List Nat := s.census.toList ++ s.forgotten

/-- **A step of a census** changes the seat of one that listens, and it changes no worker and no
blueprint. No other seat becomes one of theirs. -/
theorem exists_worked_listener {s s' : Silo ω σ}
    (h : s.censusStep = some s' ∨ ∃ k, s.forgottenStep k = some s') :
    ∃ n bus factory census forgotten, n ∈ s.listeners ∧ s.bus.Worked n [] bus ∧
      bus.callbacks = s.bus.callbacks ∧ bus.surroundings = s.bus.surroundings ∧
      factory.workers = s.factory.workers ∧ factory.blueprints = s.factory.blueprints ∧
      (census = s.census ∨ census = none) ∧ forgotten ⊆ s.forgotten ∧
      s' = { s with bus, factory, census, forgotten } := by
  rcases h with hcensus | ⟨k, hforgotten⟩
  · obtain ⟨n, goes, heard, hn, hlisten, rfl⟩ := censusStep_cases hcensus
    obtain ⟨bus, factory, hworked, hcallbacks, hsurroundings, hworkers, hblueprints, rfl⟩ :=
      exists_worked_listen hlisten
    have hmem : n ∈ s.listeners :=
      List.mem_append_left _ (by rw [hn]; exact List.mem_singleton_self n)
    refine ⟨n, bus, factory, if goes then s.census else none, s.forgotten, hmem, hworked,
      hcallbacks, hsurroundings, hworkers, hblueprints, ?_, fun _ => id, ?_⟩
    · cases goes
      · exact .inr rfl
      · exact .inl rfl
    · cases goes
      · rfl
      · rfl
  · obtain ⟨n, goes, heard, hn, hlisten, rfl⟩ := forgottenStep_cases hforgotten
    obtain ⟨bus, factory, hworked, hcallbacks, hsurroundings, hworkers, hblueprints, rfl⟩ :=
      exists_worked_listen hlisten
    have hmem : n ∈ s.listeners := List.mem_append_right _ (List.mem_of_getElem? hn)
    refine ⟨n, bus, factory, s.census, if goes then s.forgotten else s.forgotten.eraseIdx k, hmem,
      hworked, hcallbacks, hsurroundings, hworkers, hblueprints, .inl rfl, ?_, ?_⟩
    · cases goes
      · exact List.eraseIdx_subset
      · exact fun _ => id
    · cases goes
      · rfl
      · rfl

/-- Whoever listens waits where no message has come. -/
theorem listen_of_waiting {s : Silo ω σ} {n : Nat} {outbound : Endpoint}
    (hread : s.bus.pipe.outbound.receive n = (.waiting, outbound)) : s.listen n = none := by
  rw [listen, hread]

/-- Whoever listens is told of the message that has come. -/
theorem listen_of_received {s : Silo ω σ} {n : Nat} {m : Message} {outbound : Endpoint}
    (hread : s.bus.pipe.outbound.receive n = (.received m, outbound)) :
    s.listen n = some (true, { s with
      bus := s.bus.withOutbound outbound
      factory :=
        if isDeparture s.codec m then { s.factory with census := s.factory.census.depart }
        else s.factory }) := by
  rw [listen, hread]
  simp only
  change (if isDeparture s.codec m = true then _ else _) = _
  cases hdeparture : isDeparture s.codec m with
  | true => rfl
  | false => rfl

/-- The census waits where no message has come. -/
theorem censusStep_of_waiting {s : Silo ω σ} {n : Nat} {outbound : Endpoint}
    (hcensus : s.census = some n)
    (hread : s.bus.pipe.outbound.receive n = (.waiting, outbound)) : s.censusStep = none := by
  rw [censusStep, hcensus, Option.bind_eq_bind, Option.bind_some, listen_of_waiting hread]
  rfl

/-- The census counts the message that has come, if it is a notice. -/
theorem censusStep_of_received {s : Silo ω σ} {n : Nat} {m : Message} {outbound : Endpoint}
    (hcensus : s.census = some n)
    (hread : s.bus.pipe.outbound.receive n = (.received m, outbound)) :
    s.censusStep = some { s with
      bus := s.bus.withOutbound outbound
      factory :=
        if isDeparture s.codec m then { s.factory with census := s.factory.census.depart }
        else s.factory } := by
  rw [censusStep, hcensus, Option.bind_eq_bind, Option.bind_some, listen_of_received hread,
    ← hcensus]
  rfl

end Silo

/-- A thread is started, or refused with an error that tells what it was started for, or its start
panics. -/
theorem Threads.launch_cases (threads : Threads) (thread purpose : String) :
    threads.launch thread purpose = .ok () ∨
      (∃ reason, threads.launch thread purpose = .error (.error (.spawn purpose reason))) ∨
      ∃ reason, threads.launch thread purpose = .error (.panic reason) := by
  unfold launch
  split
  · exact .inr (.inr ⟨_, rfl⟩)
  · cases threads.refusal? thread with
    | none => exact .inl rfl
    | some reason => exact .inr (.inl ⟨reason, rfl⟩)

namespace Factory

variable {ω σ : Type}

/-- The worker that an activation of a blueprint adds. -/
def newcomer (departureAddress : String) (bp : Blueprint ω σ) (inbox : Nat) : Worker ω σ :=
  ⟨⟨profileOf departureAddress bp, bp.workload, inbox, .fresh bp.own, true, 0⟩, none⟩

/-- What the system makes of the thread of a blueprint's next actor. -/
def launchNext (departureAddress : String) (bp : Blueprint ω σ) (b : Bus σ) :
    Except (Failure BusError) Unit :=
  b.threads.launch (Actor.threadName (profileOf departureAddress bp).id)
    (profileOf departureAddress bp).id

/-- **What an activation does** on an open outbound side. A name that stands for nothing changes
nothing. Otherwise the new actor joins and is counted, and it goes to work, or its thread is not
started: then it leaves again, and it is taken out of the census unless the start has panicked. -/
theorem activate_cases (f : Factory ω σ) (b : Bus σ) (name : String)
    (hopen : b.pipe.outbound.isClosed = false) :
    (f.find? name = none ∧
        f.activate name b = (.error (.error (.unknownBlueprint name)), f, b)) ∨
      ∃ bp inbox e, f.find? name = some bp ∧
        b.pipe.outbound.joinFor (bp.codec.encodeText bp.inRoute) = .ok (inbox, e) ∧
        ((launchNext f.departureAddress bp b = .ok () ∧
            f.activate name b =
              (.ok (profileOf f.departureAddress bp).id,
                { f.countActivation name with
                  workers := f.workers ++ [newcomer f.departureAddress bp inbox]
                  census := f.census.arrive },
                (b.withOutbound e).report (profileOf f.departureAddress bp).id
                  Monitor.waiting)) ∨
          ∃ failure, launchNext f.departureAddress bp b = .error failure ∧
            f.activate name b =
              (.error (failure.map .bus),
                { f.countActivation name with census := unlaunched failure f.census.arrive },
                b.withOutbound (e.leave inbox))) := by
  cases hfind : f.find? name with
  | none => exact .inl ⟨rfl, by rw [activate, hfind]⟩
  | some bp =>
    right
    have hjoin := Endpoint.joinFor_of_open hopen (bp.codec.encodeText bp.inRoute)
    refine ⟨bp, _, _, rfl, hjoin, ?_⟩
    cases hlaunch : launchNext f.departureAddress bp b with
    | ok started =>
      left
      refine ⟨rfl, ?_⟩
      unfold launchNext at hlaunch
      simp only [activate, hfind, Actor.join, profileOf, hjoin, Except.map, Actor.launch,
        Bus.withOutbound] at hlaunch ⊢
      rw [hlaunch]
      rfl
    | error failure =>
      right
      refine ⟨failure, rfl, ?_⟩
      unfold launchNext at hlaunch
      simp only [activate, hfind, Actor.join, profileOf, hjoin, Except.map, Actor.launch,
        Bus.withOutbound] at hlaunch ⊢
      rw [hlaunch]
      rfl

/-- **What each activation keeps**, a start of several keeps, wherever it ends. -/
theorem activateAll_induction {P : Factory ω σ → Bus σ → Prop}
    (hstep : ∀ name f b, P f b → P (activate name f b).2.1 (activate name f b).2.2)
    (names : List String) {f : Factory ω σ} {b : Bus σ} (h : P f b) :
    P (f.activateAll names b).2.1 (f.activateAll names b).2.2 := by
  induction names generalizing f b with
  | nil => exact h
  | cons name rest ih =>
    have hfirst := hstep name f b h
    rw [activateAll]
    generalize f.activate name b = r at hfirst ⊢
    obtain ⟨e | id, f', b'⟩ := r
    · exact hfirst
    · have hrest := ih hfirst
      simp only at hrest ⊢
      generalize f'.activateAll rest b' = r at hrest ⊢
      obtain ⟨e | ids, f'', b''⟩ := r
      · exact hrest
      · exact hrest

end Factory

/-- What activating in a running silo does. -/
theorem Silo.activate_of_running {ω σ : Type} {s : Silo ω σ} (hphase : s.phase = .running)
    (name : String) :
    s.activate name =
      ((s.factory.activate name s.bus).1.mapError (·.map .factory), { s with
        factory := (s.factory.activate name s.bus).2.1
        bus := (s.factory.activate name s.bus).2.2 }) := by
  have hrunning : s.isRunning = true := by rw [isRunning, hphase]; rfl
  rw [Silo.activate, if_pos hrunning]

end ActorBus
