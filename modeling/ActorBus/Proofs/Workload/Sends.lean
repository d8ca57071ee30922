import ActorBus.Proofs.Transport.Seats
import ActorBus.Proofs.Workload.Handler
import Mathlib.Data.List.DropRight

/-!
# What a program sends

`Handler.sends` lists the frames that a run of a program sends on the output, in order, each with
whether more of its message follow. What the output holds after a run is read off that list: the
frames since the last final one (`Publisher.halfSent`), counted over everything that was sent on
this output before (`pending_run`). To publish a message is to send all its frames, and they are
delivered behind those that are held (`run_bind_publish`).
-/

set_option autoImplicit false

namespace ActorBus

/-- The frames of a message as they are sent: more follow behind each but the last. -/
def Message.parts : Message → List (Frame × Bool)
  | [] => []
  | frame :: rest => (frame, !rest.isEmpty) :: parts rest

/-- The frames that have been sent since the previous final one. -/
def Publisher.halfSent (sent : List (Frame × Bool)) : List Frame :=
  (sent.rtakeWhile (·.2)).map (·.1)

namespace Publisher

/-- A frame with more to come is left over behind those before, and a last one sends them all. -/
theorem halfSent_append_singleton (sent : List (Frame × Bool)) (frame : Frame) (more : Bool) :
    halfSent (sent ++ [(frame, more)]) = if more then halfSent sent ++ [frame] else [] := by
  unfold halfSent
  rw [List.rtakeWhile_concat]
  cases more <;> simp

/-- A message that is sent as a whole leaves nothing behind. -/
theorem halfSent_append_parts (sent : List (Frame × Bool)) {m : Message} (hm : m ≠ []) :
    halfSent (sent ++ m.parts) = [] := by
  induction m generalizing sent with
  | nil => exact absurd rfl hm
  | cons frame rest ih =>
    rw [Message.parts]
    cases rest with
    | nil => rw [Message.parts, halfSent_append_singleton]; rfl
    | cons next rest =>
      have hrest := ih (sent ++ [(frame, true)]) (List.cons_ne_nil _ _)
      rwa [List.append_assoc, List.singleton_append] at hrest

/-- What a publisher holds after it has sent a frame. -/
theorem pending_send {sent : List (Frame × Bool)} {p : Publisher} (e : Endpoint)
    (hp : p.pending = halfSent sent) (frame : Frame) (more : Bool) :
    (p.send frame more e).2.1.pending = halfSent (sent ++ [(frame, more)]) := by
  rw [halfSent_append_singleton, ← hp, send]
  cases more with
  | true => rfl
  | false => cases e.deliver (p.pending ++ [frame]) <;> rfl

end Publisher

namespace Handler

variable {ω σ α β : Type}

/-- The frames that a run of a program sends on the output, each with whether more follow. -/
def sends : Handler ω σ α → Local ω → Bus σ → List (Frame × Bool)
  | .done _, _, _ => []
  | .fail _, _, _ => []
  | .panic _, _, _ => []
  | .getProperties next, l, b => (next l.properties).sends l b
  | .setProperties p next, l, b => next.sends { l with properties := p } b
  | .send frame more next, l, b =>
    let (r, output, inbound) := l.output.send frame more b.pipe.inbound
    (frame, more) :: (next r).sends { l with output } (b.withInbound inbound)
  | .complete token c next, l, b =>
    let (r, callbacks) := b.callbacks.complete token c
    (next r).sends l { b with callbacks }
  | .getInstances next, l, b => (next b.instances).sends l b
  | .getOwn next, l, b => (next l.own).sends l b
  | .setOwn o next, l, b => next.sends { l with own := o } b
  | .getSurroundings next, l, b => (next b.surroundings).sends l b
  | .setSurroundings s next, l, b => next.sends l { b with surroundings := s }

/-- **What the output holds after a run** are the frames that are half-sent by then. -/
theorem pending_run (program : Handler ω σ α) {sent : List (Frame × Bool)} {l : Local ω}
    (b : Bus σ) (hl : l.output.pending = Publisher.halfSent sent) :
    (program.run l b).2.1.output.pending =
      Publisher.halfSent (sent ++ program.sends l b) := by
  induction program generalizing sent l b with
  | done value | fail error | panic reason =>
    rw [run, sends, List.append_nil]
    exact hl
  | getProperties next ih => exact ih _ b hl
  | setProperties p next ih => exact ih b hl
  | send frame more next ih =>
    have hsent := Publisher.pending_send b.pipe.inbound hl frame more
    have hrest := ih (l.output.send frame more b.pipe.inbound).1
      (l := { l with output := (l.output.send frame more b.pipe.inbound).2.1 })
      (b.withInbound (l.output.send frame more b.pipe.inbound).2.2) hsent
    rwa [List.append_assoc, List.singleton_append] at hrest
  | complete token c next ih => exact ih _ _ hl
  | getInstances next ih => exact ih _ b hl
  | getOwn next ih => exact ih _ b hl
  | setOwn own next ih => exact ih b hl
  | getSurroundings next ih => exact ih _ b hl
  | setSurroundings s next ih => exact ih _ hl

/-- A program that ends with a value goes on with what comes behind it. -/
theorem run_bind_of_done {program : Handler ω σ α} (k : α → Handler ω σ β) {l l' : Local ω}
    {b b' : Bus σ} {value : α} (hrun : program.run l b = (.done value, l', b')) :
    (program.bind k).run l b = (k value).run l' b' := by
  rw [run_bind, hrun]

/-- To publish a message on an open endpoint delivers it behind the frames that are held, as one
message, and nothing is held afterwards. -/
theorem run_publish_of_open {sent : List (Frame × Bool)} {l : Local ω} {b : Bus σ} {m : Message}
    (hl : l.output.pending = Publisher.halfSent sent) (hopen : b.pipe.inbound.isClosed = false)
    (hm : m ≠ []) :
    ∃ e, b.pipe.inbound.deliver (Publisher.halfSent sent ++ m) = .ok e ∧
      (publish m).run l b = (.done (), { l with output := .fresh }, b.withInbound e) := by
  obtain ⟨frame, rest, rfl⟩ := List.exists_cons_of_ne_nil hm
  have hdeliver := Endpoint.deliver_of_open hopen (Publisher.halfSent sent ++ frame :: rest)
  refine ⟨_, hdeliver, ?_⟩
  rw [run_publish_cons, hl, hdeliver]

/-- **Publishing in the middle of a program.** A program that has come to a publication, whatever it
has sent before, delivers the message behind the frames that are half-sent by then, and goes on with
nothing held. -/
theorem run_bind_publish {sent : List (Frame × Bool)} {l l' : Local ω} {b b' : Bus σ}
    {program : Handler ω σ α} {value : α} {m : α → Message} (k : α → Handler ω σ β)
    (hm : m value ≠ []) (hl : l.output.pending = Publisher.halfSent sent)
    (hopen : b.pipe.inbound.isClosed = false)
    (hrun : program.run l b = (.done value, l', b')) :
    ∃ e, b'.pipe.inbound.deliver
        (Publisher.halfSent (sent ++ program.sends l b) ++ m value) = .ok e ∧
      (program.bind fun v => (publish (m v)).bind fun _ => k v).run l b =
        (k value).run { l' with output := .fresh } (b'.withInbound e) := by
  have hpending := program.pending_run b hl
  have hstill := program.isClosed_inbound_run l b
  rw [hrun] at hpending hstill
  obtain ⟨e, hdeliver, hpublish⟩ := run_publish_of_open hpending (hstill.trans hopen) hm
  refine ⟨e, hdeliver, ?_⟩
  rw [run_bind_of_done _ hrun]
  exact run_bind_of_done _ hpublish

end Handler

end ActorBus
