import ActorBus.Proofs.Transport.Publisher
import ActorBus.Proofs.Transport.Subscriber

/-!
# Seats of an endpoint

What each operation of an endpoint does to the seat of one subscriber that is there, by the
subscriber's number, and what sending does to an endpoint.
-/

set_option autoImplicit false

namespace ActorBus

namespace Endpoint

variable {e e' : Endpoint} {n : Nat} {s : Subscriber}

/-- On an open endpoint a message goes to every seat. -/
theorem deliver_of_open (hopen : e.isClosed = false) (m : Message) :
    e.deliver m = .ok { e with seats := e.seats.map (·.deliver m) } := by
  rw [deliver, hopen]
  rfl

/-- On a closed endpoint a message is refused. -/
theorem deliver_of_closed (hclosed : e.isClosed = true) (m : Message) :
    e.deliver m = .error (.disposed e.name) := by
  rw [deliver, if_pos hclosed]

/-- On an open endpoint a message with frames is published to every seat. -/
theorem publish_of_open (hopen : e.isClosed = false) {m : Message} (hm : m ≠ []) :
    e.publish m = .ok { e with seats := e.seats.map (·.deliver m) } := by
  rw [publish, Publisher.sendAll_of_pending_eq_nil .fresh e m rfl hm, deliver_of_open hopen]

/-- A delivery goes to an open endpoint, which stays open. -/
theorem isClosed_of_deliver {m : Message} (h : e.deliver m = .ok e') :
    e.isClosed = false ∧ e'.isClosed = false := by
  cases hclosed : e.isClosed with
  | true =>
    rw [deliver_of_closed hclosed] at h
    cases h
  | false =>
    rw [deliver_of_open hclosed] at h
    cases h
    exact ⟨rfl, hclosed⟩

/-- A delivery is pushed to whoever sits there. -/
theorem seat_deliver {m : Message} (hseat : e.seats[n]? = some ⟨true, true, s⟩)
    (h : e.deliver m = .ok e') : e'.seats[n]? = some ⟨true, true, s.push m⟩ := by
  rw [deliver_of_open (isClosed_of_deliver h).1] at h
  cases h
  simp [hseat, Seat.deliver]

/-- When an endpoint is closed whoever sits there is disconnected. -/
theorem seat_close (hseat : e.seats[n]? = some ⟨true, true, s⟩) :
    e.close.seats[n]? = some ⟨true, true, s.disconnect⟩ := by
  simp [close, hseat]

/-- The change of a seat at the seat itself. -/
theorem seat_modify (hseat : e.seats[n]? = some ⟨true, true, s⟩) (f : Subscriber → Subscriber) :
    (e.modify n f).seats[n]? = some ⟨true, true, f s⟩ := by
  simp [modify, hseat]

/-- The change of a seat leaves the other ones alone. -/
theorem seat_modify_of_ne {k : Nat} (hne : k ≠ n) (f : Subscriber → Subscriber) :
    (e.modify k f).seats[n]? = e.seats[n]? := by
  simp [modify, hne]

/-- Whoever leaves leaves the other seats alone. -/
theorem seat_leave_of_ne {k : Nat} (hne : k ≠ n) : (e.leave k).seats[n]? = e.seats[n]? := by
  simp [leave, hne]

/-- Whoever sits at a seat subscribes there. -/
theorem subscriber?_of_seat {attached present : Bool}
    (hseat : e.seats[n]? = some ⟨attached, present, s⟩) : e.subscriber? n = some s := by
  rw [subscriber?, hseat]
  rfl

/-- To read neither opens nor closes an endpoint. -/
theorem isClosed_read {α : Type} (k : Nat) (f : Subscriber → Receipt α × Subscriber) :
    (e.read k f).2.isClosed = e.isClosed := by
  rw [read]
  cases e.subscriber? k <;> rfl

/-- Reading adds no seat and takes none away. -/
theorem length_seats_read {α : Type} (k : Nat) (f : Subscriber → Receipt α × Subscriber) :
    (e.read k f).2.seats.length = e.seats.length := by
  rw [read]
  cases e.subscriber? k with
  | none => rfl
  | some s => exact List.length_modify _ _ _

/-- To read at a seat leaves the other ones alone. -/
theorem seat_read_of_ne {α : Type} {k : Nat} (hne : k ≠ n)
    (f : Subscriber → Receipt α × Subscriber) : (e.read k f).2.seats[n]? = e.seats[n]? := by
  rw [read]
  cases e.subscriber? k with
  | none => rfl
  | some s => exact seat_modify_of_ne hne _

/-- Delivers messages, one after another. -/
def deliverAll (ms : List Message) (e : Endpoint) : Except BusError Endpoint :=
  ms.foldlM (fun e m => e.deliver m) e

/-- Messages are delivered one after the other. -/
theorem deliverAll_append {ms ms' : List Message} {e e' e'' : Endpoint}
    (h : e.deliverAll ms = .ok e') (h' : e'.deliverAll ms' = .ok e'') :
    e.deliverAll (ms ++ ms') = .ok e'' := by
  rw [deliverAll, List.foldlM_append]
  change (e.deliverAll ms >>= fun e => e.deliverAll ms') = _
  rw [h]
  exact h'

/-- One message is delivered. -/
theorem deliverAll_singleton {m : Message} (h : e.deliver m = .ok e') :
    e.deliverAll [m] = .ok e' := by
  rw [deliverAll, List.foldlM_cons, h]
  rfl

/-- The first message is delivered first. -/
theorem deliverAll_cons {m : Message} {ms : List Message} (h : e.deliverAll (m :: ms) = .ok e') :
    ∃ between, e.deliver m = .ok between ∧ between.deliverAll ms = .ok e' := by
  rw [deliverAll, List.foldlM_cons] at h
  cases hdeliver : e.deliver m with
  | error error =>
    rw [hdeliver] at h
    cases h
  | ok between =>
    rw [hdeliver] at h
    exact ⟨between, rfl, h⟩

/-- Deliveries neither open nor close an endpoint. -/
theorem isClosed_deliverAll {ms : List Message} (h : e.deliverAll ms = .ok e') :
    e'.isClosed = e.isClosed := by
  induction ms generalizing e with
  | nil =>
    cases h
    rfl
  | cons m ms ih =>
    obtain ⟨between, hdeliver, hrest⟩ := deliverAll_cons h
    obtain ⟨hopen, hstill⟩ := isClosed_of_deliver hdeliver
    rw [ih hrest, hstill, hopen]

/-- Delivering adds no seat and takes none away. -/
theorem length_seats_deliverAll {ms : List Message} (h : e.deliverAll ms = .ok e') :
    e'.seats.length = e.seats.length := by
  induction ms generalizing e with
  | nil =>
    cases h
    rfl
  | cons m ms ih =>
    obtain ⟨between, hdeliver, hrest⟩ := deliverAll_cons h
    rw [ih hrest]
    rw [deliver_of_open (isClosed_of_deliver hdeliver).1] at hdeliver
    cases hdeliver
    exact List.length_map _

/-- Deliveries stand last in the queue of whoever sits there. -/
theorem seat_deliverAll {ms : List Message} (hseat : e.seats[n]? = some ⟨true, true, s⟩)
    (h : e.deliverAll ms = .ok e') :
    e'.seats[n]? = some ⟨true, true, { s with queue := s.queue ++ ms }⟩ := by
  induction ms generalizing e s with
  | nil =>
    cases h
    rw [List.append_nil]
    exact hseat
  | cons m ms ih =>
    obtain ⟨between, hdeliver, hrest⟩ := deliverAll_cons h
    rw [ih (seat_deliver hseat hdeliver) hrest, Subscriber.push, List.append_assoc]
    rfl

/-- Who joins sits behind those who are there. -/
theorem joinFor_of_open (hopen : e.isClosed = false) (filter : Frame) :
    e.joinFor filter = .ok (e.seats.length,
      { e with seats := e.seats ++
        [(⟨true, true, (Subscriber.fresh e.name).subscribe filter⟩ : Seat)] }) := by
  rw [joinFor, join, hopen]
  simp [Except.map, modify, List.modify_eq_take_drop]

/-- Whoever joins an open endpoint gets the next seat. -/
theorem joinFor_eq {filter : Frame} {k : Nat} (h : e.joinFor filter = .ok (k, e')) :
    k = e.seats.length ∧ e.isClosed = false ∧
      e' = { e with seats := e.seats ++
        [⟨true, true, (Subscriber.fresh e.name).subscribe filter⟩] } := by
  cases hclosed : e.isClosed with
  | true =>
    rw [joinFor, join, if_pos hclosed] at h
    cases h
  | false =>
    rw [joinFor_of_open hclosed] at h
    cases h
    exact ⟨rfl, rfl, by rw [hclosed]⟩

/-- Whoever joins takes nobody else's seat. -/
theorem seat_joinFor {filter : Frame} {k : Nat} {seat : Seat} (hseat : e.seats[n]? = some seat)
    (h : e.joinFor filter = .ok (k, e')) : e'.seats[n]? = some seat ∧ n ≠ k := by
  obtain ⟨hk, _, rfl⟩ := joinFor_eq h
  have hlt : n < e.seats.length := (List.getElem?_eq_some_iff.mp hseat).1
  refine ⟨?_, by omega⟩
  rw [← hseat]
  exact List.getElem?_append_left hlt

/-- Whoever joins leaves the other seats alone. -/
theorem seat_joinFor_of_ne {filter : Frame} {k : Nat} (h : e.joinFor filter = .ok (k, e'))
    (hne : k ≠ n) : e'.seats[n]? = e.seats[n]? := by
  obtain ⟨rfl, _, rfl⟩ := joinFor_eq h
  rcases Nat.lt_or_gt_of_ne hne with hlt | hgt
  · rw [List.getElem?_eq_none hlt.le, List.getElem?_eq_none]
    rw [List.length_append, List.length_singleton]
    exact hlt
  · exact List.getElem?_append_left hgt

end Endpoint

/-- Sending a frame delivers a message exactly if it is the last one and the endpoint is open. -/
theorem Publisher.send_cases (frame : Frame) (more : Bool) (p : Publisher) (e : Endpoint) :
    ((more || e.isClosed) = true ∧ (p.send frame more e).2.2 = e) ∨
      ((more || e.isClosed) = false ∧
        e.deliver (p.pending ++ [frame]) = .ok (p.send frame more e).2.2) := by
  rw [send]
  cases more with
  | true => exact .inl ⟨rfl, rfl⟩
  | false =>
    cases hclosed : e.isClosed with
    | true => exact .inl ⟨rfl, by simp [Endpoint.deliver_of_closed hclosed]⟩
    | false => exact .inr ⟨rfl, by simp [Endpoint.deliver_of_open hclosed]⟩

end ActorBus
