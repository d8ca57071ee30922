import ActorBus.Transport.Publisher

/-!
# Sending the frames of a message

The frames of a message gather in the publisher, and the last one delivers them as a whole. So a
publisher with nothing pending delivers the message it is given exactly once, or is refused.
-/

set_option autoImplicit false

namespace ActorBus

namespace Publisher

/-- A publisher that holds nothing is as fresh as a new one. -/
theorem eq_fresh {p : Publisher} (h : p.pending = []) : p = .fresh := congrArg Publisher.mk h

/-- Sending a frame neither opens nor closes the endpoint. -/
theorem isClosed_send (frame : Frame) (more : Bool) (p : Publisher) (e : Endpoint) :
    (p.send frame more e).2.2.isClosed = e.isClosed := by
  rw [send]
  cases more with
  | true => rfl
  | false =>
    simp only [Endpoint.deliver]
    cases h : e.isClosed <;> simp [h]

/-- The frames of a message are delivered behind those that are pending, as one message. -/
theorem sendAll_cons (sent : List Frame) (e : Endpoint) (frame : Frame) (rest : List Frame) :
    sendAll ⟨sent⟩ e (frame :: rest) =
      match e.deliver (sent ++ frame :: rest) with
      | .ok e => (.ok (), fresh, e)
      | .error error => (.error error, fresh, e) := by
  induction rest generalizing frame sent with
  | nil =>
    rw [sendAll, send]
    simp only [List.isEmpty_nil, Bool.not_true, Bool.false_eq_true, if_false]
    cases e.deliver (sent ++ [frame]) <;> rfl
  | cons next rest ih =>
    have hsent := ih (sent ++ [frame]) next
    rw [List.append_assoc, List.singleton_append] at hsent
    rw [sendAll, send, ← hsent]
    rfl

/-- **A complete message is delivered once.** A publisher that has nothing pending hands the frames
it is given to its endpoint as one message, and has nothing pending afterwards. -/
theorem sendAll_of_pending_eq_nil (p : Publisher) (e : Endpoint) (m : Message)
    (hp : p.pending = []) (hm : m ≠ []) :
    p.sendAll e m =
      match e.deliver m with
      | .ok e => (.ok (), fresh, e)
      | .error error => (.error error, fresh, e) := by
  obtain ⟨frame, rest, rfl⟩ := List.exists_cons_of_ne_nil hm
  obtain ⟨pending⟩ := p
  obtain rfl : pending = [] := hp
  exact sendAll_cons [] e frame rest

end Publisher

end ActorBus
