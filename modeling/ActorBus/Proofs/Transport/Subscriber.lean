import ActorBus.Transport.Endpoint
import Mathlib.Data.List.TakeWhile

/-!
# Reading a subscriber's queue

What `Subscriber.nextFrame` does in the three situations a reader can be in: inside a message, in
front of a message that passes the filters, and in front of none. The queue is cut at the first
message that is read, `skipped ++ m :: after`. The second half says what reading a seat leaves of
its endpoint, and what delivering leaves in a seat.
-/

set_option autoImplicit false

namespace ActorBus

namespace Subscriber

/-- A message that a read passes over: the filters do not let it through, or it has no frame. -/
def skips (s : Subscriber) (m : Message) : Prop := s.accepts m = false ∨ m = []

instance (s : Subscriber) (m : Message) : Decidable (s.skips m) :=
  inferInstanceAs (Decidable (_ ∨ _))

/-- Inside a message the next frame is the first one unread. -/
theorem nextFrame_of_current (s : Subscriber) (frame : Frame) (rest : List Frame)
    (h : s.current = frame :: rest) :
    s.nextFrame = (.received (frame, !rest.isEmpty), { s with current := rest }) := by
  simp [nextFrame, h]

/-- Between messages the next frame is the first one of the first message that is read, and the
messages before it are gone. -/
theorem nextFrame_of_queue (s : Subscriber) (skipped : List Message) (frame : Frame)
    (rest : List Frame) (after : List Message) (hcur : s.current = [])
    (hqueue : s.queue = skipped ++ (frame :: rest) :: after) (hskip : ∀ m ∈ skipped, s.skips m)
    (hacc : s.accepts (frame :: rest) = true) :
    s.nextFrame =
      (.received (frame, !rest.isEmpty), { s with current := rest, queue := after }) := by
  have hdrop : s.queue.dropWhile (fun m => !s.accepts m || m.isEmpty) =
      (frame :: rest) :: after := by
    rw [hqueue, List.dropWhile_append_of_pos]
    · simp [hacc]
    · intro m hm
      rcases hskip m hm with h | h <;> simp [h]
  simp [nextFrame, hcur, hdrop]

/-- Where no message is read, all of them are gone and the end shows. -/
theorem nextFrame_of_forall (s : Subscriber) (hcur : s.current = [])
    (hskip : ∀ m ∈ s.queue, s.skips m) : s.nextFrame = (s.exhausted, { s with queue := [] }) := by
  have hdrop : s.queue.dropWhile (fun m => !s.accepts m || m.isEmpty) = [] := by
    rw [List.dropWhile_eq_nil_iff]
    intro m hm
    rcases hskip m hm with h | h <;> simp [h]
  simp [nextFrame, hcur, hdrop]

end Subscriber

namespace Endpoint

/-- Reading as a subscriber that is there changes its seat and no other. -/
theorem read_of_subscriber? {α : Type} (e : Endpoint) (n : Nat) (s : Subscriber)
    (f : Subscriber → Receipt α × Subscriber) (h : e.subscriber? n = some s) :
    e.read n f = ((f s).1, e.modify n fun _ => (f s).2) := by
  simp [read, h]

/-- The subscriber of a changed seat. -/
theorem subscriber?_modify (e : Endpoint) (n : Nat) (f : Subscriber → Subscriber) :
    (e.modify n f).subscriber? n = (e.subscriber? n).map f := by
  simp only [subscriber?, modify, List.getElem?_modify_eq]
  cases e.seats[n]? <;> rfl

/-- Of two changes of a seat that do not look at it only the second one counts. -/
theorem modify_const_modify_const (e : Endpoint) (n : Nat) (s t : Subscriber) :
    ((e.modify n fun _ => s).modify n fun _ => t) = e.modify n fun _ => t := by
  simp [modify, List.modify_modify_eq]
  rfl

/-- A seat that is changed into what it is stays as it is. -/
theorem modify_const_of_subscriber? {e : Endpoint} {n : Nat} {s : Subscriber}
    (hseat : e.subscriber? n = some s) : (e.modify n fun _ => s) = e := by
  obtain ⟨seat, hthere, rfl⟩ := Option.map_eq_some_iff.mp hseat
  have hseats : (e.seats.modify n fun s => { s with subscriber := seat.subscriber }) = e.seats := by
    apply List.ext_getElem?
    intro k
    rw [List.getElem?_modify]
    by_cases hk : n = k
    · subst hk
      rw [hthere]
      simp
    · simp [hk]
  rw [modify, hseats]

/-- A subscriber that joins gets its filter and a seat. -/
theorem seat_of_joinFor (e e' : Endpoint) (filter : Frame) (n : Nat)
    (h : e.joinFor filter = .ok (n, e')) :
    e'.seats[n]? = some ⟨true, true, (Subscriber.fresh e.name).subscribe filter⟩ := by
  rw [joinFor, join] at h
  split at h
  · cases h
  · cases h
    simp [modify]

end Endpoint

end ActorBus
