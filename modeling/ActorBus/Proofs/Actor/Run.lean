import ActorBus.Proofs.Actor.Serve
import ActorBus.Proofs.Transport.Seats

/-!
# A whole run of an actor

The loop works on frames and keeps its place in a queue, and the fold of `Workload.serve` works on
messages. `step_of_nextFrame` says that one turn of the loop takes in one message as a whole,
`handle_cases` what is then done about it, and `turns_through` carries both through a queue.
`run_over` adds the end of the loop, and `run_of_closed` is its case for a closed endpoint.
-/

set_option autoImplicit false

namespace ActorBus

namespace Actor

variable {ω σ : Type}

/-! ## One turn -/

/-- **What is done about a message** that has been taken in: a stop order stops the actor, what
calls for no program is refused, and everything else is dispatched. -/
theorem handle_cases (a : Actor ω σ) (b : Bus σ) (m : Message) :
    (Message.ordersStop a.profile.codec m = true ∧ Message.intake a.profile.codec m = .stopped ∧
      a.workload.call? a.profile m = none ∧
      handle (Message.intake a.profile.codec m) a b = stop a b) ∨
    (Message.ordersStop a.profile.codec m = false ∧ a.workload.call? a.profile m = none ∧
      handle (Message.intake a.profile.codec m) a b =
        proceed a (a.workload.refuse a.profile m b)) ∨
    (Message.ordersStop a.profile.codec m = false ∧
      ∃ e loaded, Message.intake a.profile.codec m = .complete e ∧
        loaded.emptied = a.workload.emptied ∧ loaded.token? e = a.workload.token? e ∧
        a.workload.call? a.profile m = some (e, loaded.program a.profile e) ∧
        handle (Message.intake a.profile.codec m) a b =
          dispatch e { a with workload := loaded } b) := by
  rcases Intake.intake_cases a.profile.codec m with
    ⟨address, hi, hd⟩ | ⟨e, hi, hd⟩ | ⟨f, token, hi, hd⟩
  · left
    simp only [Message.ordersStop, Workload.call?, hd, hi, handle, and_self]
  · right
    cases hload : a.workload.decodePayload a.profile.codec e.kind with
    | error error =>
      left
      have hfault := (Workload.decodePayload_eq_error_iff _ _ _ _).mp hload
      simp only [Message.ordersStop, Workload.call?, Workload.refuse, hd, hi, handle, hload, hfault,
        true_and]
      rfl
    | ok loaded =>
      right
      have hemptied := Workload.emptied_of_decodePayload _ _ _ _ hload
      have htoken : loaded.token? e = a.workload.token? e := by
        rw [← loaded.token?_emptied, hemptied, Workload.token?_emptied]
      simp only [Message.ordersStop, Workload.call?, hd, hi, handle, hload, true_and]
      exact ⟨e, loaded, rfl, hemptied, htoken, rfl, rfl⟩
  · right; left
    simp only [Message.ordersStop, Workload.call?, Workload.refuse, hd, hi, handle, true_and]
    rfl

/-- A stop order, taken in, stops the actor. -/
theorem handle_of_ordersStop (a : Actor ω σ) (b : Bus σ) (m : Message)
    (hstop : Message.ordersStop a.profile.codec m = true) :
    handle (Message.intake a.profile.codec m) a b = stop a b := by
  rcases handle_cases a b m with ⟨-, -, -, hhandle⟩ | ⟨hnot, -⟩ | ⟨hnot, -⟩
  · exact hhandle
  · exact absurd (hnot.symm.trans hstop) Bool.false_ne_true
  · exact absurd (hnot.symm.trans hstop) Bool.false_ne_true

/-- A message that orders no stop, taken in, is served, unless the workload panics. It counts as
handed over exactly when it calls for a program. -/
theorem handle_of_not_ordersStop (a : Actor ω σ) (b : Bus σ) (m : Message)
    (hstop : Message.ordersStop a.profile.codec m = false)
    (hcalm : ∀ e program, a.workload.call? a.profile m = some (e, program) → ∀ reason,
      (program.run a.state (b.report a.profile.id Monitor.received)).1 ≠ .panicked reason) :
    ∃ workload, workload.emptied = a.workload.emptied ∧
      handle (Message.intake a.profile.codec m) a (b.report a.profile.id Monitor.received) =
        (.handled,
          { a with
            workload
            state := (a.workload.serve a.profile (a.state, b) m).1
            dispatched := a.dispatched + (a.workload.call? a.profile m).toList.length },
          (a.workload.serve a.profile (a.state, b) m).2) := by
  rcases handle_cases a (b.report a.profile.id Monitor.received) m with
    ⟨hnot, -⟩ | ⟨-, hcall, hhandle⟩ | ⟨-, e, loaded, -, hemptied, htoken, hcall, hhandle⟩
  · exact absurd (hstop.symm.trans hnot) Bool.false_ne_true
  · refine ⟨a.workload, rfl, ?_⟩
    simp only [hhandle, Workload.serve, hcall]
    rfl
  · have hpanic := hcalm _ _ hcall
    refine ⟨loaded.emptied, ?_, ?_⟩
    · rw [hemptied]
      cases a.workload <;> rfl
    · simp only [hhandle, Workload.serve, hcall, dispatch, htoken]
      rcases hrun : (loaded.program a.profile e).run a.state
          (b.report a.profile.id Monitor.received) with ⟨_ | error | reason, l, b'⟩
      · rfl
      · rfl
      · rw [hrun] at hpanic
        exact absurd rfl (hpanic reason)

/-- **An actor that reads a frame** takes in the message that the frame opens, as a whole, and
leaves the subscriber behind it. -/
theorem read_of_nextFrame (a : Actor ω σ) (b : Bus σ) {s : Subscriber} (s' : Subscriber)
    {frame : Frame} (hseat : b.pipe.outbound.subscriber? a.inbox = some s)
    (hnext : s.nextFrame = (.received (frame, !s'.current.isEmpty), s')) :
    a.read b =
      (.received (Message.intake a.profile.codec (frame :: s'.current)),
        (b.withOutbound (b.pipe.outbound.modify a.inbox fun _ =>
          { s' with current := [] })).report a.profile.id Monitor.received) := by
  have hread := Endpoint.read_of_subscriber? b.pipe.outbound a.inbox s Subscriber.nextFrame hseat
  rw [hnext] at hread
  have hthere : (b.pipe.outbound.modify a.inbox fun _ => s').subscriber? a.inbox = some s' := by
    rw [Endpoint.subscriber?_modify, hseat]
    rfl
  have hstart := Intake.start_eq_intake a.profile.codec frame s'
  rw [read, hread]
  simp only [Bus.report, Bus.withOutbound, hthere, hstart, Endpoint.modify_const_modify_const]

/-- A turn that reads a frame goes on with the message that the frame opens. -/
theorem step_of_nextFrame (a : Actor ω σ) (b : Bus σ) {s : Subscriber} (s' : Subscriber)
    {frame : Frame} (hseat : b.pipe.outbound.subscriber? a.inbox = some s)
    (hnext : s.nextFrame = (.received (frame, !s'.current.isEmpty), s')) :
    a.step b =
      handle (Message.intake a.profile.codec (frame :: s'.current)) a
        ((b.withOutbound (b.pipe.outbound.modify a.inbox fun _ =>
          { s' with current := [] })).report a.profile.id Monitor.received) := by
  rw [step, a.read_of_nextFrame b s' hseat hnext]

/-- A turn in front of a message takes that message in, over those that are skipped. -/
theorem step_of_readable (a : Actor ω σ) (b : Bus σ) (s : Subscriber) (skipped : List Message)
    (frame : Frame) (rest : List Frame) (after : List Message)
    (hseat : b.pipe.outbound.subscriber? a.inbox = some s) (hcur : s.current = [])
    (hqueue : s.queue = skipped ++ (frame :: rest) :: after) (hskip : ∀ m ∈ skipped, s.skips m)
    (hacc : s.accepts (frame :: rest) = true) :
    a.step b =
      handle (Message.intake a.profile.codec (frame :: rest)) a
        ((b.withOutbound (b.pipe.outbound.modify a.inbox fun _ =>
          { s with current := [], queue := after })).report a.profile.id Monitor.received) := by
  have hnext := Subscriber.nextFrame_of_queue s skipped frame rest after hcur hqueue hskip hacc
  exact a.step_of_nextFrame b { s with current := rest, queue := after } hseat hnext

/-! ## The end of the loop -/

/-- The notice that an actor has stopped. -/
def notice (p : Profile) : Message := Message.departure p.codec p.departureAddress p.id

/-- The bus when an actor has read a stop order and published its notice, unless that is refused. -/
def depart (p : Profile) (b : Bus σ) : Bus σ :=
  match b.pipe.inbound.deliver (notice p) with
  | .ok inbound => (b.report p.id Monitor.received).withInbound inbound
  | .error _ => b.report p.id Monitor.received

/-- Departing delivers the notice where the inbound side is open, and changes nothing else that
workloads share. -/
theorem depart_cases (p : Profile) (b : Bus σ) :
    ((depart p b).surroundings = b.surroundings ∧ (depart p b).callbacks = b.callbacks ∧
        (depart p b).faults = b.faults) ∧
      (b.pipe.inbound.isClosed = false →
        b.pipe.inbound.deliverAll [notice p] = .ok (depart p b).pipe.inbound) ∧
      (b.pipe.inbound.isClosed = true → (depart p b).pipe.inbound = b.pipe.inbound) := by
  rw [depart]
  cases hclosed : b.pipe.inbound.isClosed with
  | true =>
    rw [Endpoint.deliver_of_closed hclosed]
    exact ⟨⟨rfl, rfl, rfl⟩, nofun, fun _ => rfl⟩
  | false =>
    have hdeliver := Endpoint.deliver_of_open hclosed (notice p)
    rw [hdeliver]
    exact ⟨⟨rfl, rfl, rfl⟩, fun _ => Endpoint.deliverAll_singleton hdeliver, nofun⟩

/-- A stop order makes an actor with nothing half-sent depart and leave the loop. -/
theorem stop_eq (a : Actor ω σ) (b : Bus σ) (hpending : a.state.output.pending = []) :
    stop a (b.report a.profile.id Monitor.received) = exit .stopped a (depart a.profile b) := by
  have hsend := a.state.output.sendAll_of_pending_eq_nil b.pipe.inbound (notice a.profile) hpending
    (List.cons_ne_nil _ _)
  have hstate : { a.state with output := .fresh } = a.state := by
    rw [← Publisher.eq_fresh hpending]
  rw [stop, announce, depart]
  simp only [Bus.report]
  rw [show Message.departure a.profile.codec a.profile.departureAddress a.profile.id =
    notice a.profile from rfl, hsend]
  cases b.pipe.inbound.deliver (notice a.profile) with
  | ok inbound =>
    simp only [hstate]
    rfl
  | error e =>
    simp only [hstate]
    rfl

/-! ## The loop over a queue -/

section Step

variable {a : Actor ω σ} {b : Bus σ} {c : Subscriber}
  (hseat : b.pipe.outbound.subscriber? a.inbox = some c) (hc : a.profile.Awaits c)

include hseat hc

/-- A turn takes in the first message that the actor listens to. -/
theorem step_of_hears {skipped : List Message} {m : Message} {after : List Message}
    (hqueue : c.queue = skipped ++ m :: after) (hskip : ∀ m ∈ skipped, a.profile.hears m = false)
    (hm : a.profile.hears m = true) :
    a.step b =
      handle (Message.intake a.profile.codec m) a
        ((b.withOutbound (b.pipe.outbound.modify a.inbox fun _ =>
          { c with queue := after })).report a.profile.id Monitor.received) := by
  cases m with
  | nil => cases hm
  | cons frame rest =>
    have hstep := a.step_of_readable b c skipped frame rest after hseat hc.between hqueue
      (fun m hm => (hc.skips_iff m).mpr (hskip m hm))
      ((a.profile.accepts_eq_hears c hc.filters frame rest).trans hm)
    rwa [← hc.between] at hstep

/-- Where the actor listens to no message, a turn waits for one, or leaves the loop where none can
come. -/
theorem step_of_not_hears (hnone : ∀ m ∈ c.queue, a.profile.hears m = false) :
    let b' := b.withOutbound (b.pipe.outbound.modify a.inbox fun _ => { c with queue := [] })
    a.step b = if c.connected then (.waiting, a, b') else exit .closed a b' := by
  have hnext := Subscriber.nextFrame_of_forall c hc.between
    fun m hm => (hc.skips_iff m).mpr (hnone m hm)
  have hread := Endpoint.read_of_subscriber? b.pipe.outbound a.inbox c Subscriber.nextFrame hseat
  rw [hnext] at hread
  rw [step, read, hread]
  cases hconnected : c.connected with
  | true => simp [Subscriber.exhausted, hconnected]
  | false => simp [Subscriber.exhausted, hconnected]

/-- In front of a stop order the loop ends with the departure. -/
theorem turns_of_stop (fuel : Nat) {skipped : List Message} {m : Message} {after : List Message}
    (hqueue : c.queue = skipped ++ m :: after) (hskip : ∀ m ∈ skipped, a.profile.hears m = false)
    (hm : a.profile.hears m = true) (hstop : Message.ordersStop a.profile.codec m = true)
    (hpending : a.state.output.pending = []) :
    turns (fuel + 1) a b =
      (some .stopped, { a with isRunning := false },
        (depart a.profile (b.withOutbound (b.pipe.outbound.modify a.inbox fun _ =>
          { c with queue := after }))).report a.profile.id Monitor.exiting) := by
  rw [turns, step_of_hears hseat hc hqueue hskip hm, handle_of_ordersStop a _ m hstop,
    stop_eq a _ hpending]
  rfl

/-- In front of a message whose program panics the loop ends where it stands. -/
theorem turns_of_panic {w : Workload ω σ} (hw : a.workload.emptied = w.emptied) (fuel : Nat)
    {skipped : List Message} {m : Message} {after : List Message}
    (hqueue : c.queue = skipped ++ m :: after) (hskip : ∀ m ∈ skipped, a.profile.hears m = false)
    (hm : a.profile.hears m = true) {e : Envelope} {program : Handler ω σ Unit}
    (hcall : w.call? a.profile m = some (e, program)) {reason : String} {l : Local ω} {b' : Bus σ}
    (hrun : program.run a.state (b.report a.profile.id Monitor.received) =
      (.panicked reason, l, b')) :
    ∃ a' b'', turns (fuel + 1) a b = (some (.panicked reason), a', b'') ∧ a'.state = l ∧
      b''.pipe.inbound = b'.pipe.inbound ∧ b''.faults = b'.faults := by
  rw [← Workload.call?_emptied, ← hw, Workload.call?_emptied] at hcall
  rcases handle_cases a ((b.withOutbound (b.pipe.outbound.modify a.inbox fun _ =>
      { c with queue := after })).report a.profile.id Monitor.received) m with
    ⟨-, -, hnone, -⟩ | ⟨-, hnone, -⟩ | ⟨-, e', loaded, -, -, -, hcall', hhandle⟩
  · rw [hcall] at hnone
    cases hnone
  · rw [hcall] at hnone
    cases hnone
  · rw [hcall] at hcall'
    cases hcall'
    rw [turns, step_of_hears hseat hc hqueue hskip hm, hhandle, dispatch]
    have hbus : (b.withOutbound (b.pipe.outbound.modify a.inbox fun _ =>
        { c with queue := after })).report a.profile.id Monitor.received =
          (b.report a.profile.id Monitor.received).withOutbound (b.pipe.outbound.modify a.inbox
            fun _ => { c with queue := after }) := rfl
    simp only [hbus, Handler.run_withOutbound, hrun]
    exact ⟨_, _, rfl, rfl, rfl, rfl⟩

/-- In front of nothing that the actor listens to the loop waits, or ends. -/
theorem turns_of_not_hears (fuel : Nat) (hnone : ∀ m ∈ c.queue, a.profile.hears m = false) :
    turns (fuel + 1) a b =
      if c.connected then
        (none, a, b.withOutbound (b.pipe.outbound.modify a.inbox fun _ => { c with queue := [] }))
      else
        (some .closed, { a with isRunning := false },
          (b.withOutbound (b.pipe.outbound.modify a.inbox fun _ =>
            { c with queue := [] })).report a.profile.id Monitor.exiting) := by
  rw [turns, step_of_not_hears hseat hc hnone]
  cases c.connected <;> rfl

end Step

/-- A message that orders no stop is served by a workload with whatever waits in it, and the
outbound side stays as it is put. -/
theorem handle_of_served (w : Workload ω σ) (a : Actor ω σ) (b : Bus σ) (m : Message)
    (outbound : Endpoint) (hw : a.workload.emptied = w.emptied)
    (hstop : Message.ordersStop a.profile.codec m = false)
    (hcalm : ∀ e program, w.call? a.profile m = some (e, program) → ∀ reason,
      (program.run a.state (b.report a.profile.id Monitor.received)).1 ≠ .panicked reason) :
    ∃ workload, workload.emptied = a.workload.emptied ∧
      handle (Message.intake a.profile.codec m) a
          ((b.withOutbound outbound).report a.profile.id Monitor.received) =
        (.handled,
          { a with
            workload
            state := (w.serve a.profile (a.state, b) m).1
            dispatched := a.dispatched + (w.call? a.profile m).toList.length },
          (w.serve a.profile (a.state, b) m).2.withOutbound outbound) := by
  have hcall : a.workload.call? a.profile m = w.call? a.profile m := by
    rw [← Workload.call?_emptied, hw, Workload.call?_emptied]
  have hserve : a.workload.serve a.profile = w.serve a.profile := by
    rw [← Workload.serve_emptied, hw, Workload.serve_emptied]
  have hhandle := handle_of_not_ordersStop a (b.withOutbound outbound) m hstop
  rw [hcall, hserve, Workload.serve_withOutbound] at hhandle
  apply hhandle
  intro e program h
  rw [show (b.withOutbound outbound).report a.profile.id Monitor.received =
    (b.report a.profile.id Monitor.received).withOutbound outbound from rfl,
    Handler.run_withOutbound]
  exact hcalm e program h

/-- **Turns through the front of a queue.** As long as nothing orders a stop, an actor takes a turn
for each message that it listens to and serves it. It then stands in front of what lies behind, with
at most some messages to skip before that. -/
theorem turns_through (w : Workload ω σ) (fuel : Nat) (skipped front after : List Message)
    (a : Actor ω σ) (b : Bus σ) {c : Subscriber}
    (hw : a.workload.emptied = w.emptied)
    (hseat : b.pipe.outbound.subscriber? a.inbox = some c) (hc : a.profile.Awaits c)
    (hqueue : c.queue = skipped ++ (front ++ after))
    (hskip : ∀ m ∈ skipped, a.profile.hears m = false)
    (hgoes : ∀ m ∈ a.profile.heard front, Message.ordersStop a.profile.codec m = false)
    (hpending : a.state.output.pending = [])
    (hcalm : w.Calm a.profile (a.state, b) (a.profile.heard front)) :
    let world := (a.profile.heard front).foldl (w.serve a.profile) (a.state, b)
    ∃ workload behind, workload.emptied = w.emptied ∧
      (∀ m ∈ behind, a.profile.hears m = false) ∧ world.1.output.pending = [] ∧
      turns ((a.profile.heard front).length + fuel) a b =
        turns fuel
          { a with
            workload
            state := world.1
            dispatched :=
              a.dispatched + ((a.profile.heard front).filterMap (w.call? a.profile)).length }
          (world.2.withOutbound (b.pipe.outbound.modify a.inbox fun _ =>
            { c with queue := behind ++ after })) := by
  induction front generalizing skipped a b c with
  | nil =>
    have hsame : ({ c with queue := skipped ++ after } : Subscriber) = c := by
      rw [List.nil_append] at hqueue
      rw [← hqueue]
    refine ⟨a.workload, skipped, hw, hskip, hpending, ?_⟩
    simp only [hsame, Endpoint.modify_const_of_subscriber? hseat]
    change turns (0 + fuel) a b = _
    rw [Nat.zero_add]
    rfl
  | cons m front ih =>
    cases hm : a.profile.hears m with
    | false =>
      rw [a.profile.heard_cons_of_not hm] at hgoes hcalm ⊢
      refine ih (skipped ++ [m]) a b hw hseat hc ?_ ?_ hgoes hpending hcalm
      · rw [hqueue, List.append_assoc, List.singleton_append, List.cons_append]
      · rw [List.forall_mem_append]
        exact ⟨hskip, List.forall_mem_singleton.mpr hm⟩
    | true =>
      rw [a.profile.heard_cons hm] at hgoes hcalm ⊢
      obtain ⟨hstop, hfurther⟩ := List.forall_mem_cons.mp hgoes
      obtain ⟨hcall, hrest⟩ := hcalm
      rw [List.cons_append] at hqueue
      have hstep := step_of_hears hseat hc hqueue hskip hm
      -- the turn serves `m`; what it leaves waiting in the workload is lost on `w`
      obtain ⟨workload, hemptied, hhandle⟩ :=
        handle_of_served w a b m (b.pipe.outbound.modify a.inbox fun _ =>
          { c with queue := front ++ after }) hw hstop fun e program h => (hcall e program h).1
      have hseat' : (b.pipe.outbound.modify a.inbox fun _ =>
          { c with queue := front ++ after }).subscriber? a.inbox =
            some { c with queue := front ++ after } := by
        rw [Endpoint.subscriber?_modify, hseat]
        rfl
      have hpending' := w.pending_serve a.profile (a.state, b) m hpending
        fun e program h => (hcall e program h).2
      -- the remaining turns start from what `m` leaves, in front of the messages behind it
      obtain ⟨workload', behind, hemptied', hbehind, hwhole, hturns⟩ :=
        ih []
          { a with
            workload
            state := (w.serve a.profile (a.state, b) m).1
            dispatched := a.dispatched + (w.call? a.profile m).toList.length }
          ((w.serve a.profile (a.state, b) m).2.withOutbound
            (b.pipe.outbound.modify a.inbox fun _ => { c with queue := front ++ after }))
          (c := { c with queue := front ++ after })
          (hemptied.trans hw) hseat' ⟨hc.filters, hc.between⟩ rfl nofun hfurther hpending'
          ((w.calm_withOutbound a.profile _ _ _ _).mpr hrest)
      rw [Workload.foldl_serve_withOutbound] at hwhole hturns
      refine ⟨workload', behind, hemptied', hbehind, hwhole, ?_⟩
      rw [List.length_cons, Nat.add_right_comm, turns, hstep, hhandle]
      simp only
      rw [hturns, List.foldl_cons, Workload.length_filterMap_cons, ← Nat.add_assoc]
      simp only [Bus.withOutbound, Endpoint.modify_const_modify_const]

/-! ## The run -/

/-- How a run over the queue of a subscriber ends; a run that has to wait has not ended. -/
def ending (p : Profile) (c : Subscriber) : Option ActorExit :=
  if p.isStopped c.queue then some .stopped else if c.connected then none else some .closed

/-- What an actor publishes behind everything else. -/
def closing (p : Profile) (queue : List Message) : List Message :=
  if p.isStopped queue then [notice p] else []

section Run

variable {a : Actor ω σ} {b : Bus σ} {c : Subscriber}
  (hseat : b.pipe.outbound.subscriber? a.inbox = some c) (hc : a.profile.Awaits c)
  (hpending : a.state.output.pending = [])

include hseat hc hpending

/-- A run goes through the front of its queue, and has a turn for what lies behind. -/
theorem run_through {front after : List Message} (hqueue : c.queue = front ++ after)
    (hgoes : ∀ m ∈ a.profile.heard front, Message.ordersStop a.profile.codec m = false)
    (hcalm : a.workload.Calm a.profile (a.state, b.report a.profile.id Monitor.waiting)
      (a.profile.heard front)) :
    let world := (a.profile.heard front).foldl (a.workload.serve a.profile)
      (a.state, b.report a.profile.id Monitor.waiting)
    ∃ fuel workload outbound behind, workload.emptied = a.workload.emptied ∧
      outbound.subscriber? a.inbox = some { c with queue := behind ++ after } ∧
      (∀ m ∈ behind, a.profile.hears m = false) ∧ world.1.output.pending = [] ∧
      a.run b =
        turns (fuel + 1)
          { a with
            workload
            state := world.1
            isRunning := true
            dispatched := a.dispatched +
              ((a.profile.heard front).filterMap (a.workload.call? a.profile)).length }
          (world.2.withOutbound outbound) := by
  intro world
  have hfuel : ∃ fuel, backlog a b = (a.profile.heard front).length + (fuel + 1) := by
    have hlength := a.profile.length_heard_le front
    rw [backlog, hseat, Option.elim_some, Subscriber.unread, hc.between, hqueue,
      List.flatten_append, List.length_append]
    exact ⟨front.flatten.length - (a.profile.heard front).length + after.flatten.length,
      by simp only [List.length_nil]; omega⟩
  obtain ⟨fuel, hfuel⟩ := hfuel
  obtain ⟨workload, behind, hemptied, hbehind, hwhole, hturns⟩ :=
    turns_through a.workload (fuel + 1) [] front after { a with isRunning := true }
      (b.report a.profile.id Monitor.waiting) rfl hseat hc hqueue nofun hgoes hpending hcalm
  rw [← hfuel] at hturns
  refine ⟨fuel, workload, _, behind, hemptied, ?_, hbehind, hwhole, hturns⟩
  rw [Endpoint.subscriber?_modify]
  exact congrArg (Option.map _) hseat

/-- **A run over a queue.** An actor whose workload does not panic and leaves nothing half-sent
serves each message that it listens to before the first stop order, once and in order. Where there
is a stop order it stops, and its notice is the last thing that it publishes; otherwise it waits for
more messages, or leaves the loop where none can come. -/
theorem run_over
    (hcalm : a.workload.Calm a.profile (a.state, b.report a.profile.id Monitor.waiting)
      (a.profile.served c.queue)) :
    let served := a.profile.served c.queue
    let world := served.foldl (a.workload.serve a.profile)
      (a.state, b.report a.profile.id Monitor.waiting)
    ∃ a' b', a.run b = (ending a.profile c, a', b') ∧
      a'.state = world.1 ∧ a'.isRunning = (ending a.profile c).isNone ∧
      a'.dispatched = a.dispatched + (served.filterMap (a.workload.call? a.profile)).length ∧
      (b'.surroundings = world.2.surroundings ∧ b'.callbacks = world.2.callbacks ∧
        b'.faults = world.2.faults) ∧
      (b.pipe.inbound.isClosed = false →
        world.2.pipe.inbound.deliverAll (closing a.profile c.queue) = .ok b'.pipe.inbound) ∧
      (b.pipe.inbound.isClosed = true → b'.pipe.inbound = world.2.pipe.inbound) := by
  intro served world
  have hclosed : world.2.pipe.inbound.isClosed = b.pipe.inbound.isClosed :=
    a.workload.isClosed_inbound_foldl_serve a.profile served _
  obtain ⟨front, after, hqueue, hserved, hgoes, hends⟩ := a.profile.exists_front c.queue
  obtain ⟨fuel, workload, outbound, behind, -, hthere, hbehind, hwhole, hrun⟩ :=
    run_through hseat hc hpending hqueue hgoes (hserved ▸ hcalm)
  rw [← hserved] at hwhole hrun
  let reached : Actor ω σ :=
    { a with
      workload
      state := world.1
      isRunning := true
      dispatched := a.dispatched + (served.filterMap (a.workload.call? a.profile)).length }
  have hc' : reached.profile.Awaits { c with queue := behind ++ after } := ⟨hc.filters, hc.between⟩
  rw [ending, closing]
  rcases hends with ⟨rfl, hstopped⟩ | ⟨m, further, rfl, hm, hstop, hstopped⟩
  · rw [List.append_nil] at hthere hc'
    have hend := turns_of_not_hears (a := reached) (b := world.2.withOutbound outbound) hthere hc'
      fuel hbehind
    simp only [hstopped, Bool.false_eq_true, if_false]
    cases hconnected : c.connected with
    | true =>
      simp only [hconnected, if_true] at hend
      exact ⟨_, _, hrun.trans hend, rfl, rfl, rfl, ⟨rfl, rfl, rfl⟩, fun _ => rfl, fun _ => rfl⟩
    | false =>
      simp only [hconnected, Bool.false_eq_true, if_false] at hend
      exact ⟨_, _, hrun.trans hend, rfl, rfl, rfl, ⟨rfl, rfl, rfl⟩, fun _ => rfl, fun _ => rfl⟩
  · have hend := turns_of_stop (a := reached) (b := world.2.withOutbound outbound) hthere hc' fuel
      rfl hbehind hm hstop hwhole
    simp only [hstopped, if_true]
    have hdeparted := depart_cases a.profile
      ((world.2.withOutbound outbound).withOutbound (outbound.modify a.inbox fun _ =>
        { c with queue := further }))
    obtain ⟨hshared, hopen, hshut⟩ := hdeparted
    exact ⟨_, _, hrun.trans hend, rfl, rfl, rfl, hshared, fun h => hopen (hclosed.trans h),
      fun h => hshut (hclosed.trans h)⟩

end Run

/-! ## The run on a closed endpoint -/

/-- A new actor is as it has been described, at a new seat of the outbound side. -/
theorem exists_of_join {p : Profile} {w : Workload ω σ} {own : ω} {b b' : Bus σ} {a : Actor ω σ}
    (h : join p w own b = .ok (a, b')) :
    ∃ inbox outbound,
      b.pipe.outbound.joinFor (p.codec.encodeText p.address) = .ok (inbox, outbound) ∧
        a = ⟨p, w, inbox, .fresh own, false, 0⟩ ∧ b' = b.withOutbound outbound := by
  rw [join] at h
  cases hfor : b.pipe.outbound.joinFor (p.codec.encodeText p.address) with
  | error error =>
    rw [hfor] at h
    cases h
  | ok joined =>
    rw [hfor] at h
    cases h
    exact ⟨_, _, rfl, rfl, rfl⟩

end Actor

end ActorBus
