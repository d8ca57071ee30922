import ActorBus.Proofs.Transport.Publisher
import ActorBus.Workload.Handler

/-!
# What a program leaves alone

A program reaches the inbound side of the pipe by sending on its output, and the outbound side not
at all. `run_withOutbound` says the second: a program neither sees nor changes the outbound side.
`isClosed_inbound_run` says that sending does not open or close the inbound side.
-/

set_option autoImplicit false

namespace ActorBus

namespace Handler

variable {ω σ α : Type}

/-- **A program neither sees nor changes the outbound side.** -/
theorem run_withOutbound (program : Handler ω σ α) (l : Local ω) (b : Bus σ) (o : Endpoint) :
    program.run l (b.withOutbound o) =
      ((program.run l b).1, (program.run l b).2.1, (program.run l b).2.2.withOutbound o) := by
  induction program generalizing l b with
  | done value => rfl
  | fail error => rfl
  | panic reason => rfl
  | getProperties next ih => exact ih _ l b
  | setProperties p next ih => exact ih _ b
  | send frame more next ih =>
    exact ih _ _ (b.withInbound (l.output.send frame more b.pipe.inbound).2.2)
  | complete token c next ih =>
    exact ih _ l { b with callbacks := (b.callbacks.complete token c).2 }
  | getInstances next ih => exact ih _ l b
  | getOwn next ih => exact ih _ l b
  | setOwn own next ih => exact ih _ b
  | getSurroundings next ih => exact ih _ l b
  | setSurroundings s next ih => exact ih l { b with surroundings := s }

/-- A program neither opens nor closes the inbound side. -/
theorem isClosed_inbound_run (program : Handler ω σ α) (l : Local ω) (b : Bus σ) :
    (program.run l b).2.2.pipe.inbound.isClosed = b.pipe.inbound.isClosed := by
  induction program generalizing l b with
  | done value => rfl
  | fail error => rfl
  | panic reason => rfl
  | getProperties next ih => exact ih _ l b
  | setProperties p next ih => exact ih _ b
  | send frame more next ih =>
    rw [run]
    refine (ih _ _ _).trans ?_
    exact l.output.isClosed_send frame more b.pipe.inbound
  | complete token c next ih => exact ih _ l _
  | getInstances next ih => exact ih _ l b
  | getOwn next ih => exact ih _ l b
  | setOwn own next ih => exact ih _ b
  | getSurroundings next ih => exact ih _ l b
  | setSurroundings s next ih => exact ih l _

/-- A program that goes on with what comes behind it, if it comes to its end. -/
theorem run_bind {β : Type} (program : Handler ω σ α) (k : α → Handler ω σ β) (l : Local ω)
    (b : Bus σ) :
    (program.bind k).run l b =
      match program.run l b with
      | (.done value, l, b) => (k value).run l b
      | (.failed error, l, b) => (.failed error, l, b)
      | (.panicked reason, l, b) => (.panicked reason, l, b) := by
  induction program generalizing l b with
  | done value => rfl
  | fail error => rfl
  | panic reason => rfl
  | getProperties next ih => exact ih _ l b
  | setProperties p next ih => exact ih _ b
  | send frame more next ih => exact ih _ _ _
  | complete token c next ih => exact ih _ l _
  | getInstances next ih => exact ih _ l b
  | getOwn next ih => exact ih _ l b
  | setOwn own next ih => exact ih _ b
  | getSurroundings next ih => exact ih _ l b
  | setSurroundings s next ih => exact ih l _

/-- **Publishing is one delivery.** The frames go behind those that are pending, as one message, and
nothing is pending afterwards; a refused delivery fails the program. -/
theorem run_publish_cons (frame : Frame) (rest : List Frame) (l : Local ω) (b : Bus σ) :
    (publish (frame :: rest)).run l b =
      match b.pipe.inbound.deliver (l.output.pending ++ frame :: rest) with
      | .ok e => (.done (), { l with output := .fresh }, b.withInbound e)
      | .error error => (.failed (.bus error), { l with output := .fresh }, b) := by
  induction rest generalizing frame l with
  | nil =>
    rw [publish, run, Publisher.send]
    simp only [List.isEmpty_nil, Bool.not_true, Bool.false_eq_true, if_false]
    cases b.pipe.inbound.deliver (l.output.pending ++ [frame]) <;> rfl
  | cons next rest ih =>
    have hsent := ih next { l with output := ⟨l.output.pending ++ [frame]⟩ }
    rw [List.append_assoc, List.singleton_append] at hsent
    rw [publish, run, Publisher.send]
    exact hsent

end Handler

end ActorBus
