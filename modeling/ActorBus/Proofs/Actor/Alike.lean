import ActorBus.Proofs.Actor.Turn

/-!
# What an actor cannot tell

Handling a message depends on the bus in few places. Of the inbound side it shows only whether a
message is refused, of the outbound side nothing, and nobody reads the monitor. Buses that agree
everywhere else are alike: the same message, handled on each of them, comes to the same and leaves
them alike (`Actor.agree_handle`).
-/

set_option autoImplicit false

namespace ActorBus

variable {ω σ α : Type}

/-- Endpoints that refuse the same messages in the same words. -/
structure Endpoint.Alike (e e' : Endpoint) : Prop where
  closed : e'.isClosed = e.isClosed
  name : e'.name = e.name

/-- Buses that agree in all that handling a message depends on. -/
structure Bus.Alike (b b' : Bus σ) : Prop where
  inbound : b.pipe.inbound.Alike b'.pipe.inbound
  callbacks : b'.callbacks = b.callbacks
  instances : b'.instances = b.instances
  faults : b'.faults = b.faults
  surroundings : b'.surroundings = b.surroundings

/-- Two computations that came to the same, on buses that are alike. -/
structure Bus.Agree {β : Type} (r r' : α × β × Bus σ) : Prop where
  outcome : r'.1 = r.1
  state : r'.2.1 = r.2.1
  alike : r.2.2.Alike r'.2.2

/-- Likeness goes on from one endpoint to the next. -/
theorem Endpoint.Alike.trans {e e' e'' : Endpoint} (h : e.Alike e') (h' : e'.Alike e'') :
    e.Alike e'' :=
  ⟨h'.closed.trans h.closed, h'.name.trans h.name⟩

/-- A bus is like itself. -/
theorem Bus.Alike.refl (b : Bus σ) : b.Alike b := ⟨⟨rfl, rfl⟩, rfl, rfl, rfl, rfl⟩

namespace Publisher

/-- Sending a frame keeps an endpoint like it was. -/
theorem alike_send (frame : Frame) (more : Bool) (p : Publisher) (e : Endpoint) :
    e.Alike (p.send frame more e).2.2 := by
  rcases p.send_cases frame more e with ⟨-, hsame⟩ | ⟨-, hdeliver⟩
  · rw [hsame]
    exact ⟨rfl, rfl⟩
  · have hopen := (Endpoint.isClosed_of_deliver hdeliver).1
    rw [Endpoint.deliver_of_open hopen] at hdeliver
    rw [← Except.ok.inj hdeliver]
    exact ⟨rfl, rfl⟩

/-- What is sent on endpoints that are alike goes the same way, and leaves them alike. -/
theorem send_of_alike {e e' : Endpoint} (h : e.Alike e') (frame : Frame) (more : Bool)
    (p : Publisher) :
    (p.send frame more e').1 = (p.send frame more e).1 ∧
      (p.send frame more e').2.1 = (p.send frame more e).2.1 ∧
      (p.send frame more e).2.2.Alike (p.send frame more e').2.2 := by
  unfold send
  cases more with
  | true => exact ⟨rfl, rfl, h⟩
  | false =>
    cases hclosed : e.isClosed with
    | true =>
      have hclosed' : e'.isClosed = true := h.closed.trans hclosed
      simp only [Endpoint.deliver_of_closed hclosed, Endpoint.deliver_of_closed hclosed', h.name]
      exact ⟨rfl, rfl, h⟩
    | false =>
      have hopen' : e'.isClosed = false := h.closed.trans hclosed
      simp only [Endpoint.deliver_of_open hclosed, Endpoint.deliver_of_open hopen']
      exact ⟨rfl, rfl, h.closed, h.name⟩

/-- Sending a message keeps an endpoint like it was. -/
theorem alike_sendAll (m : Message) (p : Publisher) (e : Endpoint) :
    e.Alike (p.sendAll e m).2.2 := by
  induction m generalizing p e with
  | nil => exact ⟨rfl, rfl⟩
  | cons frame rest ih =>
    have hsend := p.alike_send frame (!rest.isEmpty) e
    unfold sendAll
    rcases hsent : p.send frame (!rest.isEmpty) e with ⟨_ | _, output, behind⟩
    · rw [hsent] at hsend
      exact hsend
    · rw [hsent] at hsend
      exact hsend.trans (ih output behind)

/-- A publisher holds the same frames behind a message, on whichever of two endpoints that are
alike. -/
theorem output_sendAll_of_alike {e e' : Endpoint} (h : e.Alike e') (m : Message) (p : Publisher) :
    (p.sendAll e' m).2.1 = (p.sendAll e m).2.1 := by
  induction m generalizing p e e' with
  | nil => rfl
  | cons frame rest ih =>
    obtain ⟨houtcome, houtput, halike⟩ := send_of_alike h frame (!rest.isEmpty) p
    unfold sendAll
    rcases hsent : p.send frame (!rest.isEmpty) e with ⟨_ | _, output, behind⟩ <;>
      rcases hsent' : p.send frame (!rest.isEmpty) e' with ⟨_ | _, output', behind'⟩ <;>
      rw [hsent, hsent'] at houtcome houtput halike
    · exact houtput
    · cases houtcome
    · cases houtcome
    · simp only at houtput ⊢
      rw [houtput]
      exact ih halike output

end Publisher

/-- **A program cannot tell** buses apart that are alike. -/
theorem Handler.agree_run (program : Handler ω σ α) (l : Local ω) {b b' : Bus σ}
    (h : b.Alike b') : Bus.Agree (program.run l b) (program.run l b') := by
  induction program generalizing l b b' with
  | done value => exact ⟨rfl, rfl, h⟩
  | fail error => exact ⟨rfl, rfl, h⟩
  | panic reason => exact ⟨rfl, rfl, h⟩
  | getProperties next ih => exact ih _ l h
  | setProperties p next ih => exact ih _ h
  | send frame more next ih =>
    obtain ⟨houtcome, houtput, halike⟩ := Publisher.send_of_alike h.inbound frame more l.output
    unfold run
    simp only [houtcome, houtput]
    exact ih _ _ { h with inbound := halike }
  | complete token c next ih =>
    unfold run
    simp only [h.callbacks]
    exact ih _ l { h with callbacks := rfl }
  | getInstances next ih =>
    unfold run
    rw [h.instances]
    exact ih _ l h
  | getOwn next ih => exact ih _ l h
  | setOwn own next ih => exact ih _ h
  | getSurroundings next ih =>
    unfold run
    rw [h.surroundings]
    exact ih _ l h
  | setSurroundings s next ih => exact ih l { h with surroundings := rfl }

/-- No program touches the outbound side. -/
theorem Handler.outbound_run (program : Handler ω σ α) (l : Local ω) (b : Bus σ) :
    (program.run l b).2.2.pipe.outbound = b.pipe.outbound := by
  have hrun := program.run_withOutbound l b b.pipe.outbound
  rw [show b.withOutbound b.pipe.outbound = b from rfl] at hrun
  rw [hrun]
  rfl

namespace Actor

/-- A fault that is sent to a caller keeps two buses alike. -/
theorem alike_failCall {b b' : Bus σ} (h : b.Alike b') (token : Option Nat) (text : String) :
    (failCall token text b).Alike (failCall token text b') := by
  cases token with
  | none => exact h
  | some token =>
    unfold failCall
    exact { h with callbacks := by rw [h.callbacks] }

/-- On buses that are alike a stop ends in the same way. -/
theorem agree_stop (a : Actor ω σ) {b b' : Bus σ} (h : b.Alike b') :
    Bus.Agree (stop a b) (stop a b') := by
  have houtput := Publisher.output_sendAll_of_alike h.inbound (notice a.profile) a.state.output
  refine ⟨rfl, ?_, { h with inbound := ?_ }⟩
  · unfold stop exit announce
    simp only
    unfold notice at houtput
    rw [houtput]
  · have hleft := Publisher.alike_sendAll (notice a.profile) a.state.output b.pipe.inbound
    have hright := Publisher.alike_sendAll (notice a.profile) a.state.output b'.pipe.inbound
    exact ⟨(hright.closed.trans h.inbound.closed).trans hleft.closed.symm,
      (hright.name.trans h.inbound.name).trans hleft.name.symm⟩

/-- On buses that are alike a message is dispatched in the same way. -/
theorem agree_dispatch (e : Envelope) (a : Actor ω σ) {b b' : Bus σ} (h : b.Alike b') :
    Bus.Agree (dispatch e a b) (dispatch e a b') := by
  have hrun := (a.workload.program a.profile e).agree_run a.state h
  unfold dispatch
  simp only
  rcases hleft : (a.workload.program a.profile e).run a.state b with ⟨outcome', l', behind⟩
  rcases hright : (a.workload.program a.profile e).run a.state b' with ⟨outcome, l, behind'⟩
  rw [hleft, hright] at hrun
  obtain ⟨rfl, rfl, halike⟩ := hrun
  cases outcome with
  | done value => exact ⟨rfl, rfl, { halike with }⟩
  | failed error =>
    have hanswered := alike_failCall halike (a.workload.token? e) error.message
    refine ⟨rfl, rfl, { hanswered with faults := ?_ }⟩
    exact congrArg (Option.map (· ++ [⟨a.profile.id, e.address, .fault error.message⟩]))
      hanswered.faults
  | panicked reason => exact ⟨rfl, rfl, halike⟩

/-- **Handling a message** comes to the same on buses that are alike. -/
theorem agree_handle (intake : Intake) (a : Actor ω σ) {b b' : Bus σ} (h : b.Alike b') :
    Bus.Agree (handle intake a b) (handle intake a b') := by
  have hreject (f : DecodeFailure) {c c' : Bus σ} (h : c.Alike c') :
      Bus.Agree (reject f a c) (reject f a c') := ⟨rfl, rfl, { h with }⟩
  unfold handle
  cases intake with
  | stopped => exact agree_stop a h
  | failed f token => exact hreject f (alike_failCall h token f.error.message)
  | complete e =>
    simp only
    cases a.workload.decodePayload a.profile.codec e.kind with
    | error error => exact hreject ⟨1, error⟩ h
    | ok workload => exact agree_dispatch e _ h

/-- Handling a message comes to something, and leaves the outbound side as it is. -/
theorem outbound_handle (intake : Intake) (a : Actor ω σ) (b : Bus σ) :
    (handle intake a b).1 ≠ .waiting ∧
      (handle intake a b).2.2.pipe.outbound = b.pipe.outbound := by
  unfold handle
  cases intake with
  | stopped => exact ⟨nofun, rfl⟩
  | failed f token => exact ⟨nofun, congrArg Pipe.outbound (pipe_failCall _ _ _)⟩
  | complete e =>
    simp only
    cases a.workload.decodePayload a.profile.codec e.kind with
    | error error => exact ⟨nofun, rfl⟩
    | ok workload =>
      have hrun := (workload.program a.profile e).outbound_run a.state b
      unfold dispatch
      simp only
      rcases hleft : (workload.program a.profile e).run a.state b with ⟨_ | error | reason, l, b'⟩
      all_goals rw [hleft] at hrun
      · exact ⟨nofun, hrun⟩
      · exact ⟨nofun, (congrArg Pipe.outbound (pipe_failCall _ _ b')).trans hrun⟩
      · exact ⟨nofun, hrun⟩

end Actor

end ActorBus
