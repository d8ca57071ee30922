import ActorBus.Proofs.Transport.Seats
import ActorBus.Transport.Pipe
import Mathlib.Algebra.Ring.Nat
import Mathlib.Data.List.Basic

/-!
# What the relay carries

The relay takes up a frame, which counts it, and then hands it on. `Pipe.step` is both at once; here
they are two steps, so that endpoints can close between them.

What has arrived inbound since the start is, in this order: the messages that have been carried
across, the message that is under way, and the messages that wait in the queue of the relay's seat
(`AtWork`). Taking up a frame moves it inside of the message under way, and handing on the last one
carries this message. A relay that has ended has carried everything, or it has been cut off by the
end of the outbound side (`Carries`).
-/

set_option autoImplicit false

namespace ActorBus

namespace Pipe

/-- The relay reads a frame and counts it, and holds it then; or it finds that none can come any
more, and ends. -/
def takeUp (p : Pipe) : Option (Option (Frame × Bool) × Pipe) := do
  let r ← p.relay
  if r.ended then none
  else
    match p.inbound.read r.input Subscriber.nextFrame with
    | (.waiting, _) => none
    | (.ended, inbound) => some (none, { p with inbound }.endRelay r)
    | (.received (frame, more), inbound) =>
      some (some (frame, more),
        { p with
          inbound
          frames := p.frames + 1
          messages := if more then p.messages else p.messages + 1 })

/-- The relay sends a frame that it holds, and ends where it is refused. -/
def handOn (p : Pipe) (held : Frame × Bool) : Pipe :=
  match p.relay with
  | none => p
  | some r =>
    match r.output.send held.1 held.2 p.outbound with
    | (.ok (), output, outbound) => { p with outbound, relay := some { r with output } }
    | (.error _, output, outbound) => { p with outbound }.endRelay { r with output }

/-- A step of the relay takes up a frame and hands it on. -/
theorem step_eq (p : Pipe) :
    p.step = p.takeUp.map fun (held, p) => held.elim p p.handOn := by
  rw [step, takeUp]
  rcases p.relay with _ | ⟨input, output, ended⟩
  · rfl
  · change (if ended then none else _) = Option.map _ (if ended then none else _)
    cases ended with
    | true => rfl
    | false =>
      rw [if_neg Bool.false_ne_true, if_neg Bool.false_ne_true]
      rcases p.inbound.read input Subscriber.nextFrame with ⟨⟨frame, more⟩ | _ | _, inbound⟩
      · simp only [Option.map_some, Option.elim_some, handOn]
        rcases output.send frame more p.outbound with ⟨_ | _, output', outbound⟩ <;> rfl
      · rfl
      · rfl

/-- The message that handing on a frame carries across. -/
def handedOn (p : Pipe) (held : Frame × Bool) : Option Message :=
  match p.relay with
  | none => none
  | some r =>
    if held.2 || p.outbound.isClosed then none else some (r.output.pending ++ [held.1])

section HandOn

variable {p : Pipe} {r : Relay} (hrelay : p.relay = some r)

include hrelay

/-- A frame with more to come is kept by the relay. -/
theorem handOn_of_more (frame : Frame) :
    p.handOn (frame, true) =
        { p with relay := some { r with output := ⟨r.output.pending ++ [frame]⟩ } } ∧
      p.handedOn (frame, true) = none := by
  constructor
  · rw [handOn, hrelay]
    rfl
  · rw [handedOn, hrelay]
    rfl

/-- A last frame that cannot be delivered ends the relay. -/
theorem handOn_last_of_closed (hclosed : p.outbound.isClosed = true) (frame : Frame) :
    p.handOn (frame, false) = p.endRelay { r with output := .fresh } ∧
      p.handedOn (frame, false) = none := by
  constructor
  · rw [handOn, hrelay]
    simp [Publisher.send, Endpoint.deliver_of_closed hclosed, endRelay]
  · rw [handedOn, hrelay, hclosed]
    rfl

/-- A last frame delivers the message that it ends. -/
theorem handOn_last_of_open (hopen : p.outbound.isClosed = false) (frame : Frame) :
    p.handOn (frame, false) =
        { p with
          outbound :=
            { p.outbound with
              seats := p.outbound.seats.map (·.deliver (r.output.pending ++ [frame])) }
          relay := some { r with output := .fresh } } ∧
      p.handedOn (frame, false) = some (r.output.pending ++ [frame]) := by
  constructor
  · rw [handOn, hrelay]
    simp [Publisher.send, Endpoint.deliver_of_open hopen]
  · rw [handedOn, hrelay, hopen]
    rfl

end HandOn

/-- To hand a frame on delivers the message that it ends, if it ends one. -/
theorem outbound_handOn (p : Pipe) (held : Frame × Bool) :
    (p.handedOn held = none ∧ (p.handOn held).outbound = p.outbound) ∨
      ∃ m, p.handedOn held = some m ∧ p.outbound.deliver m = .ok (p.handOn held).outbound := by
  rcases hrelay : p.relay with _ | r
  · rw [handOn, handedOn, hrelay]
    exact .inl ⟨rfl, rfl⟩
  · have hout : (p.handOn held).outbound = (r.output.send held.1 held.2 p.outbound).2.2 := by
      rcases hsend : r.output.send held.1 held.2 p.outbound with ⟨_ | _, output, outbound⟩
      · simp [handOn, hrelay, hsend, endRelay]
      · simp [handOn, hrelay, hsend]
    rw [handedOn, hrelay, hout]
    rcases r.output.send_cases held.1 held.2 p.outbound with ⟨hnone, heq⟩ | ⟨hsome, hdeliver⟩
    · exact .inl ⟨if_pos hnone, heq⟩
    · exact .inr ⟨_, if_neg (by simp [hsome]), hdeliver⟩

/-- To a closed side nothing is handed on. -/
theorem outbound_handOn_of_closed {p : Pipe} (hclosed : p.outbound.isClosed = true)
    (held : Frame × Bool) :
    p.handedOn held = none ∧ (p.handOn held).outbound = p.outbound := by
  rcases p.outbound_handOn held with h | ⟨m, _, hdeliver⟩
  · exact h
  · rw [Endpoint.deliver_of_closed hclosed] at hdeliver
    cases hdeliver

/-- A relay that does not run takes nothing up. -/
theorem takeUp_of_not_isRunning {p : Pipe} (hidle : p.isRunning = false) : p.takeUp = none := by
  rw [takeUp]
  rcases hrelay : p.relay with _ | r
  · rfl
  · rw [isRunning, hrelay] at hidle
    have hended : r.ended = true := by simpa using hidle
    change (if r.ended then none else _) = none
    rw [if_pos hended]

section TakeUp

variable {p : Pipe} {r : Relay} {s : Subscriber} (hrelay : p.relay = some r)
  (hrunning : r.ended = false) (hseat : p.inbound.seats[r.input]? = some ⟨true, true, s⟩)

include hrelay hrunning hseat

/-- The relay takes up the next frame. -/
theorem takeUp_of_received {held : Frame × Bool} {s' : Subscriber}
    (hnext : s.nextFrame = (.received held, s')) :
    p.takeUp = some (some held,
      { p with
        inbound := p.inbound.modify r.input fun _ => s'
        frames := p.frames + 1
        messages := if held.2 then p.messages else p.messages + 1 }) := by
  have hread := p.inbound.read_of_subscriber? r.input s Subscriber.nextFrame
    (Endpoint.subscriber?_of_seat hseat)
  rw [hnext] at hread
  rw [takeUp, hrelay]
  change (if r.ended then none else _) = _
  rw [hrunning, if_neg Bool.false_ne_true, hread]

/-- Where nothing waits the relay waits, or ends if nothing can come. -/
theorem takeUp_of_exhausted {s' : Subscriber} (hnext : s.nextFrame = (s.exhausted, s')) :
    p.takeUp =
      if s.connected then none
      else some (none, { p with inbound := p.inbound.modify r.input fun _ => s' }.endRelay r) := by
  have hread := p.inbound.read_of_subscriber? r.input s Subscriber.nextFrame
    (Endpoint.subscriber?_of_seat hseat)
  rw [hnext, Subscriber.exhausted] at hread
  rw [takeUp, hrelay]
  change (if r.ended then none else _) = _
  rw [hrunning, if_neg Bool.false_ne_true, hread]
  cases s.connected <;> rfl

end TakeUp

/-! ## The relay at work -/

/-- A message of which these frames are known; no frame is no message. -/
def parcel (frames : List Frame) : List Message := if frames = [] then [] else [frames]

/-- The relay reads as `s` and perhaps holds a frame. What has arrived is what has been carried,
then the message under way, then what waits. -/
structure AtWork (p : Pipe) (held : Option (Frame × Bool)) (arrived carried : List Message)
    (r : Relay) (s : Subscriber) : Prop where
  relay : p.relay = some r
  running : r.ended = false
  seat : p.inbound.seats[r.input]? = some ⟨true, true, s⟩
  filters : s.filters = [[]]
  connected : s.connected = !p.inbound.isClosed
  whole : ∀ m ∈ s.queue, m ≠ []
  order : arrived =
    carried ++ parcel (r.output.pending ++ held.toList.map (·.1) ++ s.current) ++ s.queue
  /-- Without a frame in hand the relay has sent of a message exactly when it has more to read of
  it. -/
  between : held = none → (r.output.pending = [] ↔ s.current = [])
  last : ∀ frame more, held = some (frame, more) → more = !s.current.isEmpty
  messages : p.messages = carried.length + held.toList.countP (!·.2)
  frames : p.frames =
    (carried.map List.length).sum + r.output.pending.length + held.toList.length

/-- **Where the relay is.** It is at work; or it has ended with all that arrived carried across; or
the outbound side was closed on it, with at most one message counted and not carried. -/
inductive Carries (p : Pipe) (held : Option (Frame × Bool)) (arrived carried : List Message) :
    Prop where
  | atWork (r : Relay) (s : Subscriber) (h : p.AtWork held arrived carried r s)
  | finished (hidle : p.isRunning = false) (hheld : held = none)
      (hclosed : p.inbound.isClosed = true) (hall : carried = arrived)
      (hmessages : p.messages = carried.length)
      (hframes : p.frames = (carried.map List.length).sum)
  | cut (hidle : p.isRunning = false) (hheld : held = none) (hclosed : p.outbound.isClosed = true)
      (hbegins : carried <+: arrived) (hmessages : carried.length ≤ p.messages)
      (hatmost : p.messages ≤ carried.length + 1)

variable {p : Pipe} {arrived carried : List Message} {r : Relay} {s : Subscriber}

/-- The relay hears everything. -/
theorem AtWork.accepts {held : Option (Frame × Bool)} (h : p.AtWork held arrived carried r s)
    (m : Message) : s.accepts m = true := by
  rw [Subscriber.accepts, h.filters]
  rfl

/-- Taking up a frame: the next one of the message under way or of the first message that waits.
Where none waits, the relay waits too, or ends if the inbound side is closed. -/
theorem AtWork.takeUp (h : p.AtWork none arrived carried r s) :
    (∃ held p' s', p.takeUp = some (some held, p') ∧ p'.AtWork (some held) arrived carried r s' ∧
      p'.outbound = p.outbound ∧ p'.inbound.isClosed = p.inbound.isClosed) ∨
      carried = arrived ∧ r.output.pending = [] ∧
        p.takeUp =
          if p.inbound.isClosed then
            some (none, { p with inbound := p.inbound.modify r.input fun _ => s }.endRelay r)
          else none := by
  -- a frame of a message with these frames left, the others sent before
  have hframe (frame : Frame) (rest : List Frame) (after : List Message)
      (hnext : s.nextFrame =
        (.received (frame, !rest.isEmpty), { s with current := rest, queue := after }))
      (hwhole : ∀ m ∈ after, m ≠ [])
      (horder : arrived = carried ++ [r.output.pending ++ frame :: rest] ++ after) :
      ∃ held p' s', p.takeUp = some (some held, p') ∧ p'.AtWork (some held) arrived carried r s' ∧
        p'.outbound = p.outbound ∧ p'.inbound.isClosed = p.inbound.isClosed := by
    refine ⟨_, _, { s with current := rest, queue := after },
      takeUp_of_received h.relay h.running h.seat hnext, ?_, rfl, rfl⟩
    exact {
      relay := h.relay
      running := h.running
      seat := Endpoint.seat_modify h.seat _
      filters := h.filters
      connected := h.connected
      whole := hwhole
      order := by simp [horder, parcel]
      between := fun hnone => by cases hnone
      last := fun frame' more' heq => by cases heq; rfl
      messages := by
        have hmessages := h.messages
        cases rest <;> simp_all
      frames := by
        have hframes := h.frames
        simp at hframes ⊢
        omega }
  have horder := h.order
  rcases hcur : s.current with _ | ⟨frame, rest⟩
  · have hpending : r.output.pending = [] := (h.between rfl).mpr hcur
    rw [hcur, hpending] at horder
    rcases hqueue : s.queue with _ | ⟨m, after⟩
    · right
      rw [hqueue] at horder
      refine ⟨by simpa [parcel] using horder.symm, hpending, ?_⟩
      have hnext : s.nextFrame = (s.exhausted, s) := by
        have hnext := s.nextFrame_of_forall hcur fun m hm => by simp [hqueue] at hm
        rw [← hqueue] at hnext
        exact hnext
      rw [takeUp_of_exhausted h.relay h.running h.seat hnext, h.connected]
      cases p.inbound.isClosed <;> rfl
    · left
      have hwhole : ∀ m' ∈ m :: after, m' ≠ [] := hqueue ▸ h.whole
      obtain ⟨frame, rest, rfl⟩ := List.exists_cons_of_ne_nil (hwhole m List.mem_cons_self)
      refine hframe frame rest after ?_ (fun m' hm' => hwhole m' (List.mem_cons_of_mem _ hm')) ?_
      · exact s.nextFrame_of_queue [] frame rest after hcur hqueue (by simp) (h.accepts _)
      · simpa [parcel, hpending, hqueue] using horder
  · left
    refine hframe frame rest s.queue (s.nextFrame_of_current frame rest hcur) h.whole ?_
    simpa [parcel, hcur] using horder

/-- Handing on a frame: the message under way goes on, or is carried with its last frame; only a
closed outbound side cuts the relay off. -/
theorem AtWork.handOn {held : Frame × Bool} (h : p.AtWork (some held) arrived carried r s) :
    (p.handOn held).Carries none arrived (carried ++ (p.handedOn held).toList) := by
  obtain ⟨frame, more⟩ := held
  have hlast : more = !s.current.isEmpty := h.last frame more rfl
  have horder := h.order
  have hmessages := h.messages
  have hframes := h.frames
  simp only [Option.toList_some, List.map_singleton, List.length_singleton] at horder hframes
  cases more with
  | true =>
    obtain ⟨hhandOn, hhanded⟩ := handOn_of_more h.relay frame
    rw [hhandOn, hhanded, Option.toList_none, List.append_nil]
    refine .atWork { r with output := ⟨r.output.pending ++ [frame]⟩ } s ?_
    exact {
      relay := rfl
      running := h.running
      seat := h.seat
      filters := h.filters
      connected := h.connected
      whole := h.whole
      order := by simpa using horder
      between := fun _ => by
        have hcur : s.current ≠ [] := by simpa using hlast.symm
        simp [hcur]
      last := fun frame' more' heq => by cases heq
      messages := by simpa using hmessages
      frames := by
        simp only [List.length_append, List.length_singleton, Option.toList_none, List.length_nil]
        omega }
  | false =>
    -- the last frame: nothing of the message is left to read, and the queue comes next
    have hcur : s.current = [] := by simpa using hlast.symm
    have hcount : p.messages = carried.length + 1 := by simpa using hmessages
    rw [hcur, List.append_nil, parcel, if_neg (by simp)] at horder
    cases hclosed : p.outbound.isClosed with
    | true =>
      obtain ⟨hhandOn, hhanded⟩ := handOn_last_of_closed h.relay hclosed frame
      rw [hhandOn, hhanded, Option.toList_none, List.append_nil]
      refine .cut rfl rfl hclosed ?_ ?_ ?_
      · rw [horder, List.append_assoc]
        exact List.prefix_append ..
      · exact hcount ▸ Nat.le_succ _
      · exact hcount.le
    | false =>
      obtain ⟨hhandOn, hhanded⟩ := handOn_last_of_open h.relay hclosed frame
      rw [hhandOn, hhanded, Option.toList_some]
      refine .atWork { r with output := .fresh } s ?_
      exact {
        relay := rfl
        running := h.running
        seat := h.seat
        filters := h.filters
        connected := h.connected
        whole := h.whole
        order := by simpa [parcel, hcur, Publisher.fresh] using horder
        between := fun _ => by simp [hcur, Publisher.fresh]
        last := fun frame' more' heq => by cases heq
        messages := by simpa using hcount
        frames := by
          simp [Publisher.fresh]
          omega }

/-- Messages that arrive wait behind the others. -/
theorem AtWork.arrive {held : Option (Frame × Bool)} (h : p.AtWork held arrived carried r s)
    {ms : List Message} {e : Endpoint} (hwhole : ∀ m ∈ ms, m ≠ [])
    (hdeliver : p.inbound.deliverAll ms = .ok e) :
    { p with inbound := e }.AtWork held (arrived ++ ms) carried r
      { s with queue := s.queue ++ ms } :=
  { h with
    seat := Endpoint.seat_deliverAll h.seat hdeliver
    connected := by
      rw [Endpoint.isClosed_deliverAll hdeliver]
      exact h.connected
    whole := fun m hm => (List.mem_append.mp hm).elim (h.whole m) (hwhole m)
    order := by rw [h.order, List.append_assoc] }

namespace Carries

variable {held : Option (Frame × Bool)}

/-- What has been carried is the beginning of what has arrived. -/
theorem take_prefix (h : p.Carries held arrived carried) : carried <+: arrived := by
  cases h with
  | atWork r s h =>
    rw [h.order, List.append_assoc]
    exact List.prefix_append ..
  | finished _ _ _ hall => exact hall ▸ List.prefix_rfl
  | cut _ _ _ hbegins => exact hbegins

/-- The count of messages is one ahead at most of those that have been carried. -/
theorem messages_le (h : p.Carries held arrived carried) :
    carried.length ≤ p.messages ∧ p.messages ≤ carried.length + 1 := by
  cases h with
  | atWork r s h =>
    have hone : held.toList.countP (!·.2) ≤ held.toList.length := List.countP_le_length
    have hlength : held.toList.length ≤ 1 := by cases held <;> simp
    have hmessages := h.messages
    omega
  | finished _ _ _ _ hmessages => omega
  | cut _ _ _ _ hmessages hatmost => exact ⟨hmessages, hatmost⟩

/-- A message that arrives waits to be carried. -/
theorem arrive (h : p.Carries held arrived carried) {m : Message} {e : Endpoint} (hm : m ≠ [])
    (hdeliver : p.inbound.deliver m = .ok e) :
    { p with inbound := e }.Carries held (arrived ++ [m]) carried := by
  cases h with
  | atWork r s h =>
    have hwhole (m' : Message) (hm' : m' ∈ [m]) : m' ≠ [] := List.mem_singleton.mp hm' ▸ hm
    exact .atWork r _ (h.arrive hwhole (Endpoint.deliverAll_singleton hdeliver))
  | finished _ _ hclosed =>
    rw [(Endpoint.isClosed_of_deliver hdeliver).1] at hclosed
    cases hclosed
  | cut hidle hheld hclosed hbegins hmessages hatmost =>
    exact .cut hidle hheld hclosed (hbegins.trans (List.prefix_append ..)) hmessages hatmost

/-- To take a frame up goes on carrying. -/
theorem takeUp (h : p.Carries none arrived carried) {p' : Pipe}
    (htakeUp : p.takeUp = some (held, p')) : p'.Carries held arrived carried := by
  cases h with
  | atWork r s h =>
    rcases h.takeUp with ⟨held', p'', s', heq, hwork, _, _⟩ | ⟨hall, hpending, heq⟩
    · rw [heq] at htakeUp
      cases htakeUp
      exact .atWork r s' hwork
    · rw [heq, Option.ite_none_right_eq_some] at htakeUp
      obtain ⟨hclosed, hended⟩ := htakeUp
      cases hended
      have hmessages := h.messages
      have hframes := h.frames
      rw [hpending] at hframes
      exact .finished rfl rfl hclosed hall hmessages hframes
  | finished hidle =>
    rw [takeUp_of_not_isRunning hidle] at htakeUp
    cases htakeUp
  | cut hidle =>
    rw [takeUp_of_not_isRunning hidle] at htakeUp
    cases htakeUp

/-- To hand a frame on goes on carrying. -/
theorem handOn {held : Frame × Bool} (h : p.Carries (some held) arrived carried) :
    (p.handOn held).Carries none arrived (carried ++ (p.handedOn held).toList) := by
  cases h with
  | atWork r s h => exact h.handOn
  | finished _ hheld => cases hheld
  | cut _ hheld => cases hheld

end Carries

/-! ## What the relay leaves alone -/

/-- The relay sits elsewhere. -/
def Spares (n : Nat) (p : Pipe) : Prop := ∀ r, p.relay = some r → r.input ≠ n

/-- No endpoint opens or closes, and of the inbound seats only the relay's changes. -/
structure Leaves (p p' : Pipe) : Prop where
  inbound : p'.inbound.isClosed = p.inbound.isClosed
  outbound : p'.outbound.isClosed = p.outbound.isClosed
  seats : ∀ n, p.Spares n → p'.Spares n ∧ p'.inbound.seats[n]? = p.inbound.seats[n]?

/-- A pipe is left as it is. -/
theorem Leaves.refl (p : Pipe) : p.Leaves p := ⟨rfl, rfl, fun _ hspares => ⟨hspares, rfl⟩⟩

/-- A pipe is left alone by one step and the next. -/
theorem Leaves.trans {p p' p'' : Pipe} (h : p.Leaves p') (h' : p'.Leaves p'') : p.Leaves p'' where
  inbound := h'.inbound.trans h.inbound
  outbound := h'.outbound.trans h.outbound
  seats := fun n hspares => by
    obtain ⟨hspares', hseat⟩ := h.seats n hspares
    obtain ⟨hspares'', hseat'⟩ := h'.seats n hspares'
    exact ⟨hspares'', hseat'.trans hseat⟩

/-- What keeps the seats of the others leaves the pipe alone. -/
theorem leaves_of_seats {p p' : Pipe} {r r' : Relay} (hrelay : p.relay = some r)
    (hrelay' : p'.relay = some r') (hinput : r'.input = r.input)
    (hin : p'.inbound.isClosed = p.inbound.isClosed)
    (hout : p'.outbound.isClosed = p.outbound.isClosed)
    (hseats : ∀ n, r.input ≠ n → p'.inbound.seats[n]? = p.inbound.seats[n]?) : p.Leaves p' where
  inbound := hin
  outbound := hout
  seats := fun n hspares => by
    have hne : r.input ≠ n := hspares r hrelay
    refine ⟨fun r'' hr'' => ?_, hseats n hne⟩
    rw [hrelay'] at hr''
    cases hr''
    rw [hinput]
    exact hne

/-- Taking up a frame reads at the relay's seat, and where the relay ends, it leaves this seat. -/
theorem takeUp_cases {p p' : Pipe} {held : Option (Frame × Bool)}
    (h : p.takeUp = some (held, p')) :
    ∃ r e, p.relay = some r ∧ e = (p.inbound.read r.input Subscriber.nextFrame).2 ∧
      (p' = { p with inbound := e, messages := p'.messages, frames := p'.frames } ∨
        p' = { p with inbound := e }.endRelay r) := by
  rcases hrelay : p.relay with _ | r
  · rw [takeUp, hrelay] at h
    cases h
  · refine ⟨r, _, rfl, rfl, ?_⟩
    rw [takeUp, hrelay] at h
    change (if r.ended then none else _) = some (held, p') at h
    rw [Option.ite_none_left_eq_some] at h
    obtain ⟨_, h⟩ := h
    rcases hread : p.inbound.read r.input Subscriber.nextFrame with ⟨⟨frame, more⟩ | _ | _, e⟩
    · rw [hread] at h
      cases h
      exact .inl rfl
    · rw [hread] at h
      cases h
      exact .inr rfl
    · rw [hread] at h
      cases h

/-- To take a frame up leaves the far side alone. -/
theorem outbound_takeUp {p p' : Pipe} {held : Option (Frame × Bool)}
    (h : p.takeUp = some (held, p')) : p'.outbound = p.outbound := by
  obtain ⟨r, e, _, _, heq | heq⟩ := takeUp_cases h
  · rw [heq]
  · rw [heq]
    rfl

/-- To take a frame up leaves the pipe alone but for the relay. -/
theorem leaves_takeUp {p p' : Pipe} {held : Option (Frame × Bool)}
    (h : p.takeUp = some (held, p')) : p.Leaves p' := by
  obtain ⟨r, e, hrelay, hread, heq⟩ := takeUp_cases h
  have hclosed : e.isClosed = p.inbound.isClosed := by
    rw [hread, Endpoint.isClosed_read]
  have hseats (n : Nat) (hne : r.input ≠ n) : e.seats[n]? = p.inbound.seats[n]? := by
    rw [hread, Endpoint.seat_read_of_ne hne]
  rcases heq with heq | heq
  · rw [heq]
    exact leaves_of_seats hrelay hrelay rfl hclosed rfl hseats
  · rw [heq]
    exact leaves_of_seats hrelay rfl rfl hclosed rfl fun n hne =>
      (Endpoint.seat_leave_of_ne hne).trans (hseats n hne)

/-- To hand a frame on leaves the pipe alone but for the relay. -/
theorem leaves_handOn (p : Pipe) (held : Frame × Bool) : p.Leaves (p.handOn held) := by
  have hout : (p.handOn held).outbound.isClosed = p.outbound.isClosed := by
    rcases p.outbound_handOn held with ⟨_, heq⟩ | ⟨m, _, hdeliver⟩
    · rw [heq]
    · obtain ⟨hopen, hstill⟩ := Endpoint.isClosed_of_deliver hdeliver
      rw [hopen, hstill]
  rcases hrelay : p.relay with _ | r
  · rw [handOn, hrelay]
    exact .refl p
  · rcases hsend : r.output.send held.1 held.2 p.outbound with ⟨_ | _, output, outbound⟩
    · have hhandOn : p.handOn held = { p with outbound }.endRelay { r with output } := by
        simp [handOn, hrelay, hsend]
      rw [hhandOn] at hout ⊢
      exact leaves_of_seats hrelay rfl rfl rfl hout fun n hne => Endpoint.seat_leave_of_ne hne
    · have hhandOn : p.handOn held = { p with outbound, relay := some { r with output } } := by
        simp [handOn, hrelay, hsend]
      rw [hhandOn] at hout ⊢
      exact leaves_of_seats hrelay rfl rfl rfl hout fun n _ => rfl

/-- A step of the relay leaves the pipe alone but for the relay. -/
theorem leaves_step {p p' : Pipe} (h : p.step = some p') : p.Leaves p' := by
  rw [step_eq, Option.map_eq_some_iff] at h
  obtain ⟨⟨held, taken⟩, htakeUp, rfl⟩ := h
  cases held with
  | none => exact leaves_takeUp htakeUp
  | some held => exact (leaves_takeUp htakeUp).trans (leaves_handOn taken held)

/-- What every step keeps holds when the relay has settled. -/
theorem settle_induction {P : Pipe → Prop} (hkeeps : ∀ p p', P p → p.step = some p' → P p')
    (fuel : Nat) {p : Pipe} (h : P p) : P (p.settle fuel) := by
  induction fuel generalizing p with
  | zero => exact h
  | succ fuel ih =>
    rw [settle]
    cases hstep : p.step with
    | none => exact h
    | some p' => exact ih (hkeeps p p' h hstep)

/-- To settle leaves the pipe alone but for the relay. -/
theorem leaves_settle (fuel : Nat) (p : Pipe) : p.Leaves (p.settle fuel) :=
  settle_induction (fun _ _ h hstep => h.trans (leaves_step hstep)) fuel (.refl p)

/-! ## Whole steps, and closing -/

/-- The message that a step carries across. -/
def carriedBy (p : Pipe) : Option Message :=
  p.takeUp.bind fun (held, p) => held.bind p.handedOn

/-- A step of the relay delivers the message that it carries, if it carries one. -/
theorem outbound_step {p p' : Pipe} (hstep : p.step = some p') :
    (p.carriedBy = none ∧ p'.outbound = p.outbound) ∨
      ∃ m, p.carriedBy = some m ∧ p.outbound.deliver m = .ok p'.outbound := by
  rw [step_eq, Option.map_eq_some_iff] at hstep
  obtain ⟨⟨held, taken⟩, htakeUp, rfl⟩ := hstep
  have hout : taken.outbound = p.outbound := outbound_takeUp htakeUp
  rw [carriedBy, htakeUp, ← hout]
  cases held with
  | none => exact .inl ⟨rfl, rfl⟩
  | some held => exact taken.outbound_handOn held

/-- A step of the relay goes on carrying. -/
theorem Carries.step {p p' : Pipe} (h : p.Carries none arrived carried)
    (hstep : p.step = some p') :
    p'.Carries none arrived (carried ++ p.carriedBy.toList) := by
  rw [step_eq, Option.map_eq_some_iff] at hstep
  obtain ⟨⟨held, taken⟩, htakeUp, rfl⟩ := hstep
  have htaken := h.takeUp htakeUp
  rw [carriedBy, htakeUp]
  cases held with
  | none => simpa using htaken
  | some held => exact htaken.handOn

/-- To close the near side loses nothing that has arrived. -/
theorem Carries.closeInbound {held : Option (Frame × Bool)} (h : p.Carries held arrived carried) :
    { p with inbound := p.inbound.close }.Carries held arrived carried := by
  cases h with
  | atWork r s h =>
    exact .atWork r s.disconnect { h with seat := Endpoint.seat_close h.seat, connected := rfl }
  | finished hidle hheld _ hall hmessages hframes =>
    exact .finished hidle hheld rfl hall hmessages hframes
  | cut hidle hheld hclosed hbegins hmessages hatmost =>
    exact .cut hidle hheld hclosed hbegins hmessages hatmost

/-- To close the far side loses nothing that has been carried. -/
theorem Carries.closeOutbound {held : Option (Frame × Bool)} (h : p.Carries held arrived carried) :
    { p with outbound := p.outbound.close }.Carries held arrived carried := by
  cases h with
  | atWork r s h => exact .atWork r s { h with }
  | finished hidle hheld hclosed hall hmessages hframes =>
    exact .finished hidle hheld hclosed hall hmessages hframes
  | cut hidle hheld _ hbegins hmessages hatmost =>
    exact .cut hidle hheld rfl hbegins hmessages hatmost

/-- On a closed outbound side nothing more is carried. -/
theorem outbound_step_of_closed {p p' : Pipe} (hclosed : p.outbound.isClosed = true)
    (hstep : p.step = some p') : p.carriedBy = none ∧ p'.outbound = p.outbound := by
  rcases outbound_step hstep with h | ⟨m, _, hdeliver⟩
  · exact h
  · rw [Endpoint.deliver_of_closed hclosed] at hdeliver
    cases hdeliver

/-- To a closed side nothing is carried when the pipe settles. -/
theorem outbound_settle_of_closed {p : Pipe} (hclosed : p.outbound.isClosed = true) (fuel : Nat) :
    (p.settle fuel).outbound = p.outbound := by
  have hkeeps (q q' : Pipe) (h : q.outbound = p.outbound) (hstep : q.step = some q') :
      q'.outbound = p.outbound := by
    have hclosed' : q.outbound.isClosed = true := by rw [h, hclosed]
    exact (outbound_step_of_closed hclosed' hstep).2.trans h
  exact settle_induction hkeeps fuel rfl

/-- Nothing more is carried when a pipe settles whose far side is closed. -/
theorem Carries.settle {p : Pipe} (h : p.Carries none arrived carried)
    (hclosed : p.outbound.isClosed = true) (fuel : Nat) :
    (p.settle fuel).Carries none arrived carried := by
  have hkeeps (q q' : Pipe) (h : q.outbound.isClosed = true ∧ q.Carries none arrived carried)
      (hstep : q.step = some q') :
      q'.outbound.isClosed = true ∧ q'.Carries none arrived carried := by
    obtain ⟨hnone, hout⟩ := outbound_step_of_closed h.1 hstep
    have hnext := h.2.step hstep
    rw [hnone, Option.toList_none, List.append_nil] at hnext
    exact ⟨hout ▸ h.1, hnext⟩
  exact (settle_induction hkeeps fuel ⟨hclosed, h⟩).2

/-- Nothing more is carried when the relay of such a pipe has gone. -/
theorem Carries.join {p : Pipe} (h : p.Carries none arrived carried)
    (hclosed : p.outbound.isClosed = true) :
    { p with relay := none }.Carries none arrived carried :=
  .cut rfl rfl hclosed h.take_prefix h.messages_le.1 h.messages_le.2

end Pipe

/-- The first start of a relay on an open inbound side succeeds, or it leaves nothing behind but a
seat that somebody has left. -/
theorem Pipe.start_cases {p : Pipe} (threads : Threads) (hrelay : p.relay = none)
    (hopen : p.inbound.isClosed = false) :
    (∃ failure inbound, threads.launch p.threadName p.threadName = .error failure ∧
        p.start threads = (.error failure, { p with inbound }) ∧ inbound.isClosed = false) ∨
      ∃ inbound relay, threads.launch p.threadName p.threadName = .ok () ∧
        p.start threads = (.ok (), { p with inbound, relay := some relay }) ∧
        inbound.isClosed = false := by
  obtain ⟨inbound, outbound, relay, messages, frames⟩ := p
  obtain rfl : relay = none := hrelay
  simp only [start, Endpoint.joinFor_of_open hopen]
  split
  · next failure hlaunch => exact .inl ⟨failure, _, hlaunch, rfl, hopen⟩
  · next hlaunch => exact .inr ⟨_, _, hlaunch, rfl, hopen⟩

/-- A start that succeeds gives the relay a seat on the inbound side, and does nothing else. -/
theorem Pipe.start_eq_of_joinFor {threads : Threads} {inbound outbound e : Endpoint} {input : Nat}
    {p : Pipe} (hjoin : inbound.joinFor [] = .ok (input, e))
    (hstart : start threads ⟨inbound, outbound, none, 0, 0⟩ = (.ok (), p)) :
    p = ⟨e, outbound, some ⟨input, .fresh, false⟩, 0, 0⟩ := by
  simp only [start, hjoin] at hstart
  split at hstart
  · cases hstart
  · cases hstart
    rfl

/-- A relay that has just been started has carried nothing. -/
theorem Pipe.carries_start {threads : Threads} {inbound outbound : Endpoint} {p : Pipe}
    (hstart : start threads ⟨inbound, outbound, none, 0, 0⟩ = (.ok (), p)) :
    p.Carries none [] [] ∧ p.outbound = outbound ∧
      ∀ n seat, inbound.seats[n]? = some seat →
        p.Spares n ∧ p.inbound.seats[n]? = some seat := by
  rw [start] at hstart
  cases hjoin : inbound.joinFor [] with
  | error error =>
    simp only [hjoin] at hstart
    cases hstart
  | ok joined =>
    obtain ⟨input, e⟩ := joined
    have hp := start_eq_of_joinFor hjoin hstart
    subst hp
    have hseat := Endpoint.seat_of_joinFor inbound e [] input hjoin
    obtain ⟨_, hopen, he⟩ := Endpoint.joinFor_eq hjoin
    have hstill : e.isClosed = false := by rw [he, hopen]
    refine ⟨.atWork ⟨input, .fresh, false⟩ ((Subscriber.fresh inbound.name).subscribe []) ?_,
      rfl, ?_⟩
    · exact {
        relay := rfl
        running := rfl
        seat := hseat
        filters := rfl
        connected := by rw [hstill]; rfl
        whole := fun m hm => absurd hm List.not_mem_nil
        order := rfl
        between := fun _ => iff_of_true rfl rfl
        last := fun frame more heq => by cases heq
        messages := rfl
        frames := rfl }
    · intro n seat hseat'
      obtain ⟨hstays, hne⟩ := Endpoint.seat_joinFor hseat' hjoin
      exact ⟨fun r hr => by cases hr; exact hne.symm, hstays⟩

namespace Pipe.Carries

variable {p : Pipe} {arrived carried : List Message}

/-- An idle relay between open endpoints has carried everything. -/
theorem eq_of_takeUp (h : p.Carries none arrived carried) (hopen : p.outbound.isClosed = false)
    (hidle : ∀ held p', p.takeUp ≠ some (some held, p')) : carried = arrived := by
  cases h with
  | atWork r s h =>
    rcases h.takeUp with ⟨held, p', s', heq, _⟩ | ⟨hall, _⟩
    · exact absurd heq (hidle held p')
    · exact hall
  | finished _ _ _ hall => exact hall
  | cut _ _ hclosed =>
    rw [hopen] at hclosed
    cases hclosed

/-- Between two messages the counts are those of the messages carried. -/
theorem counts (h : p.Carries none arrived carried) (hopen : p.outbound.isClosed = false)
    (hbetween : ∀ r, p.relay = some r → r.output.pending = []) :
    p.messages = carried.length ∧ p.frames = (carried.map List.length).sum := by
  cases h with
  | atWork r s h =>
    have hframes := h.frames
    rw [hbetween r h.relay] at hframes
    exact ⟨h.messages, hframes⟩
  | finished _ _ _ _ hmessages hframes => exact ⟨hmessages, hframes⟩
  | cut _ _ hclosed =>
    rw [hopen] at hclosed
    cases hclosed

end Pipe.Carries

end ActorBus
