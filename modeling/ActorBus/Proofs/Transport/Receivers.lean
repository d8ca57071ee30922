import ActorBus.Proofs.Transport.Reading
import ActorBus.Proofs.Transport.Seats

/-!
# The three reads of a message agree

A message is read frame by frame, or without waiting, or for a limited time, by three loops over the
same queue. Each of them takes the front (`TakesFront`), and as long as every message has a frame
there is only one way to do so (`TakesFront.unique`): so they give the same frames and leave the
same behind, from every state that a reader can be in (`agreement_of_whole`).

What tells the end of a stream from a message that has not come yet is whether anything can still
come. `Held` is an endpoint with the handles and publishers that keep it alive. Nobody can send a
message without a frame, and a subscriber is connected exactly while the endpoint is open and
somebody holds it (`Held.Sound`).
-/

set_option autoImplicit false

namespace ActorBus

/-- What a read that waits comes back with; none as long as it waits. -/
def Receipt.returned? {α : Type} : Receipt α → Option (Option α)
  | .received value => some (some value)
  | .ended => some none
  | .waiting => none

/-- What a read that does not wait, or not for ever, comes back with. -/
def Receipt.toExcept {α : Type} (endpoint : String) : Receipt α → Except BusError (Option α)
  | .received value => .ok (some value)
  | .ended => .error (.closed endpoint)
  | .waiting => .ok none

namespace Subscriber

variable {s : Subscriber}

/-! ## One front -/

/-- Every message that waits has a frame. -/
def Whole (s : Subscriber) : Prop := ∀ m ∈ s.queue, m ≠ []

/-- The rest of a message, or a message that passes the filters, is there. -/
def Available (s : Subscriber) : Prop := s.current ≠ [] ∨ ∃ m ∈ s.queue, s.accepts m = true

/-- More messages come. -/
def hearing (coming : List Message) (s : Subscriber) : Subscriber :=
  { s with queue := s.queue ++ coming }

/-- Messages that come whole keep the queue whole. -/
theorem Whole.hearing (h : s.Whole) {coming : List Message} (hcoming : ∀ m ∈ coming, m ≠ []) :
    (s.hearing coming).Whole := by
  intro m hm
  exact (List.mem_append.mp hm).elim (h m) (hcoming m)

/-- A message that is passed over does not pass the filters, where each has a frame. -/
theorem Whole.accepts_of_skips (h : s.Whole) {m : Message} (hm : m ∈ s.queue) (hskip : s.skips m) :
    s.accepts m = false :=
  hskip.resolve_right (h m hm)

/-- The front of a whole queue has a frame. -/
theorem Front.ne_nil (hwhole : s.Whole) {frames : List Frame} {after : List Message}
    (h : s.Front frames after) : frames ≠ [] := by
  cases h with
  | inside _ _ hne => exact hne
  | ahead skipped _ hqueue _ _ =>
    apply hwhole
    rw [hqueue]
    exact List.mem_append_right skipped List.mem_cons_self

/-- What has a front is available. -/
theorem Front.available {frames : List Frame} {after : List Message} (h : s.Front frames after) :
    s.Available := by
  cases h with
  | inside hcur _ hne => exact .inl (hcur ▸ hne)
  | ahead skipped _ hqueue _ hacc =>
    refine .inr ⟨frames, ?_, hacc⟩
    rw [hqueue]
    exact List.mem_append_right skipped List.mem_cons_self

/-- What is in front is what is left when the messages that are passed over are dropped. -/
theorem Front.dropWhile_eq (hwhole : s.Whole) (hcur : s.current = []) {frames : List Frame}
    {after : List Message} (h : s.Front frames after) :
    s.queue.dropWhile (fun m => decide (s.skips m)) = frames :: after := by
  have hne := h.ne_nil hwhole
  cases h with
  | inside hcur' _ _ => exact absurd (hcur'.symm.trans hcur) hne
  | ahead skipped _ hqueue hskip hacc =>
    have hstop : ¬s.skips frames := by
      rintro (hrefused | hempty)
      · rw [hrefused] at hacc
        cases hacc
      · exact hne hempty
    rw [hqueue, List.dropWhile_append_of_pos (by simpa using hskip),
      List.dropWhile_cons_of_neg (by simpa using hstop)]

/-- A whole queue has one front. -/
theorem Front.unique (hwhole : s.Whole) {frames frames' : List Frame} {after after' : List Message}
    (h : s.Front frames after) (h' : s.Front frames' after') :
    frames = frames' ∧ after = after' := by
  by_cases hcur : s.current = []
  · have hsame := (h.dropWhile_eq hwhole hcur).symm.trans (h'.dropWhile_eq hwhole hcur)
    exact List.cons.inj hsame
  · cases h with
    | ahead _ hcur' => exact absurd hcur' hcur
    | inside hframes hafter _ =>
      cases h' with
      | ahead _ hcur' => exact absurd hcur' hcur
      | inside hframes' hafter' _ =>
        exact ⟨hframes.symm.trans hframes', hafter.symm.trans hafter'⟩

/-- Nothing is available where nothing is heard. -/
theorem not_available_of_skips (hwhole : s.Whole) (hcur : s.current = [])
    (hskip : ∀ m ∈ s.queue, s.skips m) : ¬s.Available := by
  rintro (hrest | ⟨m, hm, hacc⟩)
  · exact hrest hcur
  · rw [hwhole.accepts_of_skips hm (hskip m hm)] at hacc
    cases hacc

/-- **There is one way to take the front.** -/
theorem TakesFront.unique (hwhole : s.Whole) {r r' : Receipt Message × Subscriber}
    (h : s.TakesFront r) (h' : s.TakesFront r') : r = r' := by
  cases h with
  | taken hfront =>
    cases h' with
    | taken hfront' =>
      obtain ⟨rfl, rfl⟩ := hfront.unique hwhole hfront'
      rfl
    | nothing hcur hskip =>
      exact absurd hfront.available (not_available_of_skips hwhole hcur hskip)
  | nothing hcur hskip =>
    cases h' with
    | taken hfront' => exact absurd hfront'.available (not_available_of_skips hwhole hcur hskip)
    | nothing => rfl

/-- A queue that has run empty waits, or has ended where nobody is connected. -/
theorem exhausted_eq (α : Type) (s : Subscriber) :
    (s.exhausted : Receipt α) = if s.connected then .waiting else .ended := rfl

/-- As long as something can come, no read ends. -/
theorem TakesFront.ne_ended (hconnected : s.connected = true) {r : Receipt Message × Subscriber}
    (h : s.TakesFront r) : r.1 ≠ .ended := by
  cases h with
  | taken => exact nofun
  | nothing =>
    rw [exhausted_eq, if_pos hconnected]
    exact nofun

/-- A read that finds nothing yet has emptied the queue. -/
theorem TakesFront.snd_of_waiting {after : Subscriber} (h : s.TakesFront (.waiting, after)) :
    after = { s with queue := [] } := by
  generalize hr : (Receipt.waiting, after) = r at h
  cases h with
  | taken => cases hr
  | nothing => exact congrArg Prod.snd hr

/-- The read for a limited time takes the front of what is there and of what comes meanwhile. -/
theorem awaitMessage_takesFront (coming : List Message)
    (hcoming : s.connected = true ∨ coming = []) :
    (s.hearing coming).TakesFront (s.awaitMessage coming) := by
  obtain htakes | ⟨hcur, hskip, hended⟩ := s.awaitMessage_cases coming
  · exact htakes
  · cases hconnected : s.connected with
    | false =>
      have hnone := hcoming.resolve_left (by simp [hconnected])
      subst hnone
      have hqueue : (s.hearing []).queue = s.queue := List.append_nil s.queue
      have hnothing := TakesFront.nothing (s := s.hearing []) hcur (by rw [hqueue]; exact hskip)
      rw [hended]
      have hexhausted : ((s.hearing []).exhausted : Receipt Message) = .ended := by
        rw [exhausted_eq, if_neg]
        simp [hearing, hconnected]
      rw [hexhausted] at hnothing
      exact hnothing
    | true =>
      -- a subscriber that is connected cannot have met the end
      have hpoll := s.pollMessage_takesFront
      rw [awaitMessage] at hended
      cases heq : s.pollMessage with
      | mk receipt polled =>
        rw [heq] at hended hpoll
        cases receipt with
        | received m => cases hended
        | ended => exact absurd rfl (hpoll.ne_ended hconnected)
        | waiting =>
          rw [hpoll.snd_of_waiting] at hended
          change watch { s with queue := [] } ([] ++ coming) = _ at hended
          rw [watch_eq_pollMessage { s with queue := [] } hcur] at hended
          have hlater := pollMessage_takesFront { s with queue := [] ++ coming }
          have hopen := hlater.ne_ended (s := { s with queue := [] ++ coming }) hconnected
          exact absurd (congrArg Prod.fst hended) hopen

/-- The read for a limited time in which nothing comes takes the front of what is there. -/
theorem awaitMessage_nil_takesFront (s : Subscriber) : s.TakesFront (s.awaitMessage []) := by
  have hself : s.hearing [] = s := by rw [hearing, List.append_nil]
  have hwait := awaitMessage_takesFront (s := s) [] (.inr rfl)
  rwa [hself] at hwait

/-! ## The three reads -/

/-- What the three reads of a message have in common, where `dry` says that nothing can come any
more. -/
structure Agreement (dry : Prop) (s : Subscriber) : Prop where
  /-- A message that is there is read by all three, with the same frames, and the same is left. -/
  available : s.Available → ∃ frames after, s.Front frames after ∧ frames ≠ [] ∧
    let rest : Subscriber := { s with current := [], queue := after }
    s.nextMessage = (.received frames, rest) ∧ s.pollMessage = (.received frames, rest) ∧
      ∀ coming, s.awaitMessage coming = (.received frames, rest.hearing coming)
  /-- Where none is there, all three discard what they pass over. -/
  discarded : ¬s.Available →
    s.nextMessage.2 = { s with queue := [] } ∧ s.pollMessage.2 = { s with queue := [] } ∧
      (s.awaitMessage []).2 = { s with queue := [] }
  /-- Where none is there, all three show the end exactly when there is one. -/
  ended : ¬s.Available →
    (s.nextMessage.1.returned? = some none ↔ dry) ∧
      (s.pollMessage.1.toExcept s.endpoint = .error (.closed s.endpoint) ↔ dry) ∧
      ((s.awaitMessage []).1.toExcept s.endpoint = .error (.closed s.endpoint) ↔ dry)
  /-- Before the end the first read waits, and the other two come back with nothing. -/
  waiting : ¬s.Available → ¬dry →
    s.nextMessage.1.returned? = none ∧ s.pollMessage.1.toExcept s.endpoint = .ok none ∧
      (s.awaitMessage []).1.toExcept s.endpoint = .ok none
  /-- The limited wait for messages that come is each of the other reads once they are there. -/
  meanwhile : ∀ coming : List Message, (∀ m ∈ coming, m ≠ []) → ¬dry →
    s.awaitMessage coming = (s.hearing coming).pollMessage ∧
      (s.hearing coming).nextMessage = (s.hearing coming).pollMessage

/-- **The three reads agree** wherever each message has a frame. -/
theorem agreement_of_whole (hwhole : s.Whole) : s.Agreement (s.connected = false) := by
  have hnothing (h : ¬s.Available) {r : Receipt Message × Subscriber} (hr : s.TakesFront r) :
      r = (s.exhausted, { s with queue := [] }) := by
    cases hr with
    | taken hfront => exact absurd hfront.available h
    | nothing => rfl
  have hwait := s.awaitMessage_nil_takesFront
  refine ⟨?_, ?_, ?_, ?_, ?_⟩
  · intro h
    obtain ⟨frame, rest, after, hfront⟩ | ⟨hcur, hskip⟩ := s.exists_front_or
    · have htaken := TakesFront.taken hfront
      refine ⟨frame :: rest, after, hfront, List.cons_ne_nil _ _,
        s.nextMessage_takesFront.unique hwhole htaken,
        s.pollMessage_takesFront.unique hwhole htaken, ?_⟩
      intro coming
      rw [awaitMessage, s.pollMessage_takesFront.unique hwhole htaken]
      rfl
    · exact absurd h (not_available_of_skips hwhole hcur hskip)
  · intro h
    exact ⟨congrArg Prod.snd (hnothing h s.nextMessage_takesFront),
      congrArg Prod.snd (hnothing h s.pollMessage_takesFront),
      congrArg Prod.snd (hnothing h hwait)⟩
  · intro h
    rw [hnothing h s.nextMessage_takesFront, hnothing h s.pollMessage_takesFront,
      hnothing h hwait, exhausted_eq]
    cases s.connected <;> simp [Receipt.returned?, Receipt.toExcept]
  · intro h hdry
    rw [hnothing h s.nextMessage_takesFront, hnothing h s.pollMessage_takesFront,
      hnothing h hwait, exhausted_eq, if_pos (by simpa using hdry)]
    exact ⟨rfl, rfl, rfl⟩
  · intro coming hcoming hdry
    have hlater := hwhole.hearing hcoming
    have hconnected : s.connected = true := by simpa using hdry
    have htakes := awaitMessage_takesFront coming (.inl hconnected)
    exact ⟨htakes.unique hlater (pollMessage_takesFront _),
      (nextMessage_takesFront _).unique hlater (pollMessage_takesFront _)⟩

/-- What the owner of a subscriber does with it, alone. -/
def Action.isRead : Action → Bool
  | .nextFrame | .nextMessage | .pollMessage | .drain | .awaitMessage [] false => true
  | _ => false

/-- Reading leaves a subscriber connected or not, and brings no messages. -/
structure Reads (s after : Subscriber) : Prop where
  endpoint : after.endpoint = s.endpoint
  connected : after.connected = s.connected
  queue : ∀ m ∈ after.queue, m ∈ s.queue

/-- What stands behind the front was in the queue. -/
theorem Front.mem_of_after {frames : List Frame} {after : List Message} (h : s.Front frames after) :
    ∀ m ∈ after, m ∈ s.queue := by
  intro m hm
  cases h with
  | inside _ hqueue _ => exact hqueue ▸ hm
  | ahead skipped _ hqueue _ _ =>
    rw [hqueue]
    exact List.mem_append_right skipped (List.mem_cons_of_mem frames hm)

/-- To take the front takes from the queue, and changes nothing else. -/
theorem TakesFront.reads {r : Receipt Message × Subscriber} (h : s.TakesFront r) : s.Reads r.2 := by
  cases h with
  | taken hfront => exact ⟨rfl, rfl, hfront.mem_of_after⟩
  | nothing => exact ⟨rfl, rfl, nofun⟩

/-- Each way to read takes from the queue, and changes nothing else. -/
theorem reads_act (s : Subscriber) {a : Action} (ha : a.isRead = true) : s.Reads (s.act a) := by
  cases a with
  | deliver m => cases ha
  | disconnect => cases ha
  | nextFrame =>
    rw [act]
    obtain ⟨frame, rest, after, hfront⟩ | ⟨hcur, hskip⟩ := s.exists_front_or
    · rw [nextFrame_of_front hfront]
      exact ⟨rfl, rfl, hfront.mem_of_after⟩
    · rw [nextFrame_of_forall s hcur hskip]
      exact ⟨rfl, rfl, List.forall_mem_nil _⟩
  | nextMessage => exact s.nextMessage_takesFront.reads
  | pollMessage => exact s.pollMessage_takesFront.reads
  | awaitMessage coming closes =>
    -- a wait is a read where nothing comes and nobody closes
    cases coming with
    | cons m coming => cases ha
    | nil =>
      cases closes with
      | true => cases ha
      | false => exact s.awaitMessage_nil_takesFront.reads
  | drain => exact ⟨rfl, rfl, fun _ hm => hm⟩

end Subscriber

/-! ## An endpoint and those who hold it -/

/-- An endpoint with its handles and its publishers, each of which has a handle of its own. When
the last of them is gone, nothing can come to the subscribers any more. -/
structure Held where
  endpoint : Endpoint
  handles : Nat
  publishers : List Publisher

namespace Held

/-- Whoever can still do something at the endpoint. -/
def holders (x : Held) : Nat := x.handles + x.publishers.length

/-- Nothing can come any more. -/
def Over (x : Held) : Prop := x.endpoint.isClosed = true ∨ x.holders = 0

/-- What can happen. The last four are what a subscriber does. -/
inductive Move where
  /-- A handle is cloned. -/
  | share
  /-- A handle is dropped. -/
  | release
  | connect
  | send (p : Nat) (frame : Frame) (more : Bool)
  /-- A publisher is dropped. -/
  | hangUp (p : Nat)
  | join
  | close
  | subscribe (n : Nat) (start : Frame)
  | read (n : Nat) (a : Subscriber.Action)
  | leave (n : Nat)

/-- The subscribers of an endpoint that nobody holds are told so. -/
def settled (x : Held) : Held :=
  if x.holders = 0 then
    { x with endpoint := { x.endpoint with
        seats := x.endpoint.seats.map fun seat =>
          { seat with subscriber := seat.subscriber.disconnect } } }
  else x

/-- What can only be done by somebody who holds the endpoint. -/
def byHolder (change : Held → Held) (x : Held) : Held := if x.holders = 0 then x else change x

def act (x : Held) : Move → Held
  | .share => x.byHolder fun x => { x with handles := x.handles + 1 }
  | .release => ({ x with handles := x.handles - 1 } : Held).settled
  | .connect => x.byHolder fun x => { x with publishers := x.publishers ++ [.fresh] }
  | .send p frame more =>
    match x.publishers[p]? with
    | none => x
    | some publisher =>
      let (_, publisher, endpoint) := publisher.send frame more x.endpoint
      { x with endpoint, publishers := x.publishers.set p publisher }
  | .hangUp p => ({ x with publishers := x.publishers.eraseIdx p } : Held).settled
  | .join => x.byHolder fun x =>
    match x.endpoint.join with
    | .error _ => x
    | .ok (_, endpoint) => { x with endpoint }
  | .close => x.byHolder fun x => { x with endpoint := x.endpoint.close }
  | .subscribe n start => { x with endpoint := x.endpoint.modify n (·.subscribe start) }
  | .read n a => if a.isRead then { x with endpoint := x.endpoint.modify n (·.act a) } else x
  | .leave n => { x with endpoint := x.endpoint.leave n }

/-- A new endpoint with one handle, after a run. -/
def run (name : String) (moves : List Move) : Held := moves.foldl act ⟨.bind name, 1, []⟩

/-- What holds of a subscriber to an endpoint. -/
structure Seated (name : String) (dry : Prop) (s : Subscriber) : Prop where
  whole : s.Whole
  endpoint : s.endpoint = name
  connected : s.connected = false ↔ dry

/-- What holds of an endpoint and its subscribers at any time. -/
structure Sound (name : String) (x : Held) : Prop where
  named : x.endpoint.name = name
  seats : ∀ seat ∈ x.endpoint.seats, Seated name x.Over seat.subscriber

variable {name : String} {x : Held}

/-- Conditions that come to the same make no difference to who sits at a seat. -/
theorem Seated.congr {dry dry' : Prop} {s : Subscriber} (h : Seated name dry s)
    (hsame : dry ↔ dry') : Seated name dry' s :=
  ⟨h.whole, h.endpoint, h.connected.trans hsame⟩

/-- Whoever is disconnected keeps its seat. -/
theorem Seated.disconnect {dry dry' : Prop} {s : Subscriber} (h : Seated name dry s)
    (hdry : dry') : Seated name dry' s.disconnect :=
  ⟨h.whole, h.endpoint, iff_of_true rfl hdry⟩

/-- Whoever reads keeps its seat. -/
theorem Seated.reads {dry : Prop} {s after : Subscriber} (h : Seated name dry s)
    (hreads : s.Reads after) : Seated name dry after where
  whole := fun m hm => h.whole m (hreads.queue m hm)
  endpoint := hreads.endpoint.trans h.endpoint
  connected := by
    rw [hreads.connected]
    exact h.connected

/-- Who holds the endpoint does not matter, as long as somebody does. -/
theorem Sound.holders (h : Sound name x) (hheld : x.holders ≠ 0) {y : Held}
    (hendpoint : y.endpoint = x.endpoint) (hstill : y.holders ≠ 0) : Sound name y where
  named := by
    rw [hendpoint]
    exact h.named
  seats := by
    have hsame : x.Over ↔ y.Over := by
      rw [Over, Over, hendpoint, or_iff_left hheld, or_iff_left hstill]
    intro seat hseat
    rw [hendpoint] at hseat
    exact (h.seats seat hseat).congr hsame

/-- A sound endpoint stays sound when holders let go. -/
theorem Sound.settled (h : Sound name x) {y : Held} (hendpoint : y.endpoint = x.endpoint)
    (hfewer : y.holders ≤ x.holders) : Sound name y.settled := by
  unfold Held.settled
  split
  · next hnobody =>
    refine ⟨by rw [← h.named, ← hendpoint], ?_⟩
    intro seat hseat
    obtain ⟨old, hold, rfl⟩ := List.mem_map.mp hseat
    rw [hendpoint] at hold
    exact (h.seats old hold).disconnect (.inr hnobody)
  · next hsomebody => exact h.holders (by omega) hendpoint hsomebody

/-- What a holder does keeps an endpoint sound, as long as there is a holder. -/
theorem Sound.byHolder (h : Sound name x) {change : Held → Held}
    (hchange : x.holders ≠ 0 → Sound name (change x)) : Sound name (x.byHolder change) := by
  unfold Held.byHolder
  split
  · exact h
  · next hheld => exact hchange hheld

/-- What becomes of one seat alone. -/
theorem Sound.modifySeat (h : Sound name x) (n : Nat) {change : Seat → Seat}
    (hchange : ∀ seat : Seat, Seated name x.Over seat.subscriber →
      Seated name x.Over (change seat).subscriber) :
    Sound name { x with
      endpoint := { x.endpoint with seats := x.endpoint.seats.modify n change } } where
  named := h.named
  seats := by
    intro seat hseat
    obtain ⟨k, hk⟩ := List.mem_iff_getElem?.mp hseat
    rw [List.getElem?_modify] at hk
    obtain ⟨old, hold, rfl⟩ := Option.map_eq_some_iff.mp hk
    have hseated := h.seats old (List.mem_of_getElem? hold)
    by_cases hn : n = k
    · simp only [if_pos hn]
      exact hchange old hseated
    · simp only [if_neg hn]
      exact hseated

/-- Whoever gets a message keeps its seat. -/
theorem Seated.deliver {dry : Prop} {seat : Seat} (h : Seated name dry seat.subscriber)
    {m : Message} (hm : m ≠ []) : Seated name dry (seat.deliver m).subscriber := by
  unfold Seat.deliver
  split
  · split
    · refine ⟨?_, h.endpoint, h.connected⟩
      intro m' hm'
      obtain hold | hnew := List.mem_append.mp hm'
      · exact h.whole m' hold
      · rw [List.mem_singleton.mp hnew]
        exact hm
    · exact h
  · exact h

/-- A publisher delivers no message without a frame. -/
theorem Sound.send (h : Sound name x) {p : Nat} {publisher : Publisher}
    (hp : x.publishers[p]? = some publisher) (frame : Frame) (more : Bool) :
    Sound name { x with
      endpoint := (publisher.send frame more x.endpoint).2.2
      publishers := x.publishers.set p (publisher.send frame more x.endpoint).2.1 } := by
  obtain ⟨hlt, -⟩ := List.getElem?_eq_some_iff.mp hp
  have hheld : x.holders ≠ 0 := by
    unfold Held.holders
    omega
  have hstill (e : Endpoint) (next : Publisher) :
      ({ x with endpoint := e, publishers := x.publishers.set p next } : Held).holders ≠ 0 := by
    unfold Held.holders at hheld ⊢
    rwa [List.length_set]
  obtain ⟨-, hsame⟩ | ⟨hopen, hdeliver⟩ := publisher.send_cases frame more x.endpoint
  · exact h.holders hheld hsame (hstill _ _)
  · have hopen : x.endpoint.isClosed = false := (Bool.or_eq_false_iff.mp hopen).2
    rw [Endpoint.deliver_of_open hopen] at hdeliver
    have hendpoint := (Except.ok.inj hdeliver).symm
    refine ⟨?_, ?_⟩
    · rw [hendpoint]
      exact h.named
    · intro seat hseat
      rw [hendpoint] at hseat ⊢
      obtain ⟨old, hold, rfl⟩ := List.mem_map.mp hseat
      apply ((h.seats old hold).deliver (by simp)).congr
      exact or_congr_right (iff_of_false hheld (hstill _ _))

/-- Whoever joins a sound endpoint leaves it sound. -/
theorem Sound.join (h : Sound name x) (hheld : x.holders ≠ 0) {n : Nat} {e : Endpoint}
    (hjoin : x.endpoint.join = .ok (n, e)) : Sound name { x with endpoint := e } := by
  unfold Endpoint.join at hjoin
  split at hjoin
  · cases hjoin
  · next hopen =>
    cases hjoin
    refine ⟨h.named, ?_⟩
    intro seat hseat
    obtain hold | hnew := List.mem_append.mp hseat
    · exact h.seats seat hold
    · rw [List.mem_singleton.mp hnew]
      refine ⟨nofun, h.named, ?_⟩
      exact iff_of_false nofun (not_or.mpr ⟨hopen, hheld⟩)

/-- **Whatever happens**, messages have frames, and a subscriber is connected as long as the
endpoint is open and somebody holds it. -/
theorem Sound.act (h : Sound name x) (m : Move) : Sound name (x.act m) := by
  cases m with
  | share =>
    apply h.byHolder
    intro hheld
    refine h.holders hheld rfl ?_
    unfold Held.holders at hheld ⊢
    simp only
    omega
  | release =>
    refine h.settled rfl ?_
    unfold Held.holders
    simp only
    omega
  | connect =>
    apply h.byHolder
    intro hheld
    refine h.holders hheld rfl ?_
    unfold Held.holders at hheld ⊢
    rw [List.length_append, List.length_singleton]
    omega
  | send p frame more =>
    rw [Held.act]
    cases hp : x.publishers[p]? with
    | none => exact h
    | some publisher => exact h.send hp frame more
  | hangUp p =>
    refine h.settled rfl ?_
    unfold Held.holders
    have hfewer := List.length_eraseIdx_le x.publishers p
    simp only
    omega
  | join =>
    apply h.byHolder
    intro hheld
    cases hjoin : x.endpoint.join with
    | error e => exact h
    | ok joined => exact h.join hheld hjoin
  | close =>
    apply h.byHolder
    intro hheld
    refine ⟨h.named, ?_⟩
    intro seat hseat
    obtain ⟨old, hold, rfl⟩ := List.mem_map.mp hseat
    exact (h.seats old hold).disconnect (.inl rfl)
  | subscribe n start =>
    exact h.modifySeat n fun _ hs => ⟨hs.whole, hs.endpoint, hs.connected⟩
  | read n a =>
    rw [Held.act]
    split
    · next ha => exact h.modifySeat n fun seat hs => hs.reads (seat.subscriber.reads_act ha)
    · exact h
  | leave n => exact h.modifySeat n fun _ hs => hs

/-- A sound endpoint stays sound along a run. -/
theorem Sound.run (h : Sound name x) (moves : List Move) : Sound name (moves.foldl Held.act x) := by
  induction moves generalizing x with
  | nil => exact h
  | cons m moves ih => exact ih (h.act m)

/-- **Every endpoint is sound** along its run. -/
theorem sound_run (name : String) (moves : List Move) : Sound name (run name moves) := by
  have hnew : Sound name ⟨.bind name, 1, []⟩ := ⟨rfl, nofun⟩
  exact hnew.run moves

end Held

/-- **The three reads of a message agree.** Wherever each message has a frame, a message that is
there is read by all three with the same frames, and they leave the same; and where none is there,
all three discard what they pass over, and show the end if there is one. At every endpoint, whatever
has been done there, the messages do have frames, and the end is that the endpoint has been closed
or that nobody holds it any more. -/
theorem Subscriber.receivers_agree :
    (∀ s : Subscriber, s.Whole → s.Agreement (s.connected = false)) ∧
      ∀ (name : String) (moves : List Held.Move) (n : Nat) (s : Subscriber),
        (Held.run name moves).endpoint.subscriber? n = some s →
        s.Whole ∧ s.endpoint = name ∧ s.Agreement (Held.run name moves).Over := by
  refine ⟨fun s => agreement_of_whole, ?_⟩
  intro name moves n s hs
  obtain ⟨seat, hseat, rfl⟩ := Option.map_eq_some_iff.mp hs
  have hsound := (Held.sound_run name moves).seats seat (List.mem_of_getElem? hseat)
  refine ⟨hsound.whole, hsound.endpoint, ?_⟩
  rw [← propext hsound.connected]
  exact agreement_of_whole hsound.whole

/-- A reader is inside of a message, and behind it there is one that the filter does not let
through, when the last publisher is dropped. -/
theorem Subscriber.receivers_agree_hungUp :
    let moves : List Held.Move :=
      [.join, .subscribe 0 [7], .connect, .release, .send 0 [7] true, .send 0 [1] false,
        .send 0 [9] false, .read 0 .nextFrame, .hangUp 0]
    let s : Subscriber := ⟨"in", false, [[7]], [[[9]]], [[1]]⟩
    let rest : Subscriber := ⟨"in", false, [[7]], [[[9]]], []⟩
    (Held.run "in" moves).endpoint.subscriber? 0 = some s ∧
      s.nextMessage = (.received [[1]], rest) ∧ s.pollMessage = (.received [[1]], rest) ∧
      s.awaitMessage [] = (.received [[1]], rest) ∧
      (Held.run "in" (moves ++ [.read 0 .nextMessage])).endpoint.subscriber? 0 = some rest ∧
      rest.nextMessage.1.returned? = some none ∧
      rest.pollMessage.1.toExcept "in" = .error (.closed "in") ∧
      (rest.awaitMessage []).1.toExcept "in" = .error (.closed "in") ∧
      rest.pollMessage.2 = { rest with queue := [] } := by
  intro moves s rest
  have hs : (Held.run "in" moves).endpoint.subscriber? 0 = some s := by decide
  have hrest : (Held.run "in" (moves ++ [.read 0 .nextMessage])).endpoint.subscriber? 0 =
      some rest := by decide
  obtain ⟨-, hreached⟩ := receivers_agree
  obtain ⟨-, -, hinside⟩ := hreached "in" moves 0 s hs
  obtain ⟨-, -, hbehind⟩ := hreached "in" _ 0 rest hrest
  obtain ⟨frames, after, hfront, -, hnext, hpoll, hawait⟩ := hinside.available (.inl (by decide))
  cases hfront with
  | ahead _ hcur => exact absurd hcur (by decide)
  | inside hcur hqueue _ =>
    subst hcur hqueue
    have hnone : ¬rest.Available := by
      rintro (hmore | ⟨m, hm, hacc⟩)
      · exact hmore rfl
      · rw [List.mem_singleton.mp hm] at hacc
        exact absurd hacc (by decide)
    have hover : (Held.run "in" (moves ++ [.read 0 .nextMessage])).Over := .inr (by decide)
    obtain ⟨hended, hclosed, hclosed'⟩ := hbehind.ended hnone
    obtain ⟨-, hdiscarded, -⟩ := hbehind.discarded hnone
    exact ⟨hs, hnext, hpoll, hawait [], hrest, hended.mpr hover, hclosed.mpr hover,
      hclosed'.mpr hover, hdiscarded⟩

end ActorBus
