import ActorBus.Proofs.Transport.Publisher
import Mathlib.Data.List.DropRight
import Mathlib.Logic.Function.Basic

/-!
# Many connections to one endpoint

Publishers send frames, subscribers join and leave and the endpoint closes, in any order. A run is
the list of what was done. Which messages a run delivers is read off this list alone
(`deliveries`): a final frame completes the message that its publisher has under way
(`unfinished`), until the endpoint closes.

The endpoint agrees with that reading. What a publisher has pending is its unfinished message
(`pending_run`), an action puts the message that it completes into the queues of those who are
there (`seat_act`), and so the queue of a subscriber grows along a run by exactly the deliveries
(`seat_run`). `broadcasts_whole_messages` puts this together with what the deliveries are for each
publisher (`deliveries_of_publisher`) and with what happens behind a close.
-/

set_option autoImplicit false

namespace ActorBus

/-- An endpoint and everybody who sends to it. A publisher is one that has just connected, and a
clone is one, until it sends. -/
structure Exchange where
  endpoint : Endpoint
  publishers : Nat → Publisher

namespace Exchange

/-- A new endpoint. -/
def bind (name : String) : Exchange := ⟨.bind name, fun _ => .fresh⟩

/-- What can be done at an endpoint. -/
inductive Action where
  | send (p : Nat) (frame : Frame) (more : Bool)
  | join
  | leave (n : Nat)
  | close
  deriving DecidableEq, Repr

/-- A publisher sends a frame. -/
def send (p : Nat) (frame : Frame) (more : Bool) (x : Exchange) : Except BusError Unit × Exchange :=
  match (x.publishers p).send frame more x.endpoint with
  | (result, publisher, e) => (result, ⟨e, Function.update x.publishers p publisher⟩)

/-- A publisher sends a whole message. -/
def sendAll (p : Nat) (m : Message) (x : Exchange) : Except BusError Unit × Exchange :=
  match (x.publishers p).sendAll x.endpoint m with
  | (result, publisher, e) => (result, ⟨e, Function.update x.publishers p publisher⟩)

def act (x : Exchange) : Action → Exchange
  | .send p frame more => (x.send p frame more).2
  | .join =>
    match x.endpoint.join with
    | .ok (_, e) => { x with endpoint := e }
    | .error _ => x
  | .leave n => { x with endpoint := x.endpoint.leave n }
  | .close => { x with endpoint := x.endpoint.close }

/-- A new endpoint after a run. -/
def run (name : String) (h : List Action) : Exchange := h.foldl act (bind name)

/-- What waits in the queue of a subscriber. -/
def queue? (n : Nat) (x : Exchange) : Option (List Message) :=
  (x.endpoint.subscriber? n).map (·.queue)

/-! ## Reading a run -/

/-- The frames that a publisher sends, each with whether more of its message follow. -/
def sent (p : Nat) (h : List Action) : List (Frame × Bool) :=
  h.filterMap fun
    | .send q frame more => if q = p then some (frame, more) else none
    | _ => none

/-- The frames that a publisher has sent since its previous final frame. -/
def unfinished (p : Nat) (h : List Action) : List Frame :=
  ((sent p h).rtakeWhile (·.2)).map (·.1)

/-- The message that an action completes behind a run, and its publisher. -/
def delivery (h : List Action) : Action → Option (Nat × Message)
  | .send p frame false => if .close ∈ h then none else some (p, unfinished p h ++ [frame])
  | _ => none

/-- The messages that are completed in `during`, behind `before`, in the order of completion. -/
def deliveries (before : List Action) : List Action → List (Nat × Message)
  | [] => []
  | a :: during => (delivery before a).toList ++ deliveries (before ++ [a]) during

/-- The messages that a publisher's frames make up, the first one behind the frames `held`. -/
def parcels : List Frame → List (Frame × Bool) → List Message
  | _, [] => []
  | held, (frame, true) :: frames => parcels (held ++ [frame]) frames
  | held, (frame, false) :: frames => (held ++ [frame]) :: parcels [] frames

/-- A subscriber is alive when it has joined an open endpoint and has not left since. It has the
number of those who joined before it. -/
def Alive (n : Nat) (h : List Action) : Prop :=
  ∃ pre post, h = pre ++ .join :: post ∧ .close ∉ pre ∧ pre.count .join = n ∧ .leave n ∉ post

/-- A subscriber is gone when it has left after it joined. -/
def Gone (n : Nat) (h : List Action) : Prop :=
  ∃ pre post, h = pre ++ .join :: post ∧ .close ∉ pre ∧ pre.count .join = n ∧ .leave n ∈ post

/-- The steps in which a publisher sends a whole message. -/
def frameSteps (p : Nat) : Message → List Action
  | [] => []
  | frame :: rest => .send p frame (!rest.isEmpty) :: frameSteps p rest

/-- What a last action sends stands behind what was sent before. -/
theorem sent_append_singleton (p : Nat) (h : List Action) (a : Action) :
    sent p (h ++ [a]) = sent p h ++ sent p [a] := List.filterMap_append

/-- A frame counts for the publisher that sends it alone. -/
theorem sent_send (p q : Nat) (frame : Frame) (more : Bool) :
    sent p [.send q frame more] = if q = p then [(frame, more)] else [] := by
  by_cases hq : q = p <;> simp [sent, hq]

/-- A publisher's message goes on until its final frame. -/
theorem unfinished_append_send (p q : Nat) (h : List Action) (frame : Frame) (more : Bool) :
    unfinished p (h ++ [.send q frame more]) =
      if q = p then (if more then unfinished p h ++ [frame] else []) else unfinished p h := by
  rw [unfinished, sent_append_singleton, sent_send]
  by_cases hq : q = p
  · rw [if_pos hq, if_pos hq, List.rtakeWhile_concat]
    cases more <;> simp [unfinished]
  · rw [if_neg hq, if_neg hq, List.append_nil, unfinished]

/-- Only sending changes the message that a publisher has under way. -/
theorem unfinished_append_of_sent {p : Nat} {a : Action} (h : List Action) (ha : sent p [a] = []) :
    unfinished p (h ++ [a]) = unfinished p h := by
  rw [unfinished, sent_append_singleton, ha, List.append_nil, unfinished]

/-- What is delivered along two histories, one behind the other. -/
theorem deliveries_append (before during later : List Action) :
    deliveries before (during ++ later) =
      deliveries before during ++ deliveries (before ++ during) later := by
  induction during generalizing before with
  | nil => simp [deliveries]
  | cons a during ih => simp [deliveries, ih]

/-- **A delivered message is whole.** It is completed by a final frame, and consists of what the
publisher of this frame has sent since its previous final one. -/
theorem mem_deliveries_iff (before during : List Action) (p : Nat) (m : Message) :
    (p, m) ∈ deliveries before during ↔
      ∃ mid frame later, during = mid ++ .send p frame false :: later ∧
        .close ∉ before ++ mid ∧ m = unfinished p (before ++ mid) ++ [frame] := by
  constructor
  · intro hmem
    induction during generalizing before with
    | nil => cases hmem
    | cons a during ih =>
      rw [deliveries, List.mem_append, Option.mem_toList] at hmem
      rcases hmem with hnow | hlater
      · unfold delivery at hnow
        split at hnow
        · rename_i q frame
          rw [Option.ite_none_left_eq_some] at hnow
          obtain ⟨hopen, hnow⟩ := hnow
          cases hnow
          exact ⟨[], frame, during, rfl, by simpa using hopen, by rw [List.append_nil]⟩
        · cases hnow
      · obtain ⟨mid, frame, later, rfl, hopen, rfl⟩ := ih (before ++ [a]) hlater
        rw [List.append_assoc, List.singleton_append] at hopen ⊢
        exact ⟨a :: mid, frame, later, rfl, hopen, rfl⟩
  · rintro ⟨mid, frame, later, rfl, hopen, rfl⟩
    rw [deliveries_append, List.mem_append, deliveries, List.mem_append, delivery, if_neg hopen]
    right; left
    exact List.mem_cons_self

/-- **Publishers do not mix.** What is delivered for a publisher are the parcels that its own frames
make up until the endpoint closes, in the order in which it completed them. -/
theorem deliveries_of_publisher (p : Nat) (before during : List Action) :
    ((deliveries before during).filter (·.1 = p)).map (·.2) =
      if .close ∈ before then []
      else parcels (unfinished p before) (sent p (during.takeWhile (· ≠ .close))) := by
  induction during generalizing before with
  | nil => simp [deliveries, sent, parcels]
  | cons a during ih =>
    rw [deliveries, List.filter_append, List.map_append, ih]
    by_cases hclosed : .close ∈ before
    · have hnone : delivery before a = none := by
        unfold delivery
        split <;> simp [hclosed]
      simp [hnone, hclosed]
    · have hclose : .close ∈ before ++ [a] ↔ a = .close := by simp [hclosed, eq_comm]
      by_cases ha : a = .close
      · subst ha
        simp [hclosed, delivery, sent, parcels]
      · have htake : (a :: during).takeWhile (· ≠ .close) =
            a :: during.takeWhile (· ≠ .close) := by simp [ha]
        have hsent (h : List Action) : sent p (a :: h) = sent p [a] ++ sent p h :=
          List.filterMap_append (l := [a])
        rw [if_neg hclosed, htake, hsent, if_neg (mt hclose.mp ha)]
        cases a with
        | send q frame more =>
          rw [unfinished_append_send, sent_send]
          by_cases hq : q = p
          · subst hq
            cases more <;> simp [delivery, hclosed, parcels]
          · have hother : (delivery before (.send q frame more)).toList.filter (·.1 = p) = [] := by
              cases more <;> simp [delivery, hclosed, hq]
            rw [hother, if_neg hq, if_neg hq]
            rfl
        | join => rw [unfinished_append_of_sent before rfl]; rfl
        | leave n => rw [unfinished_append_of_sent before rfl]; rfl
        | close => exact absurd rfl ha

/-! ## The endpoint along a run -/

section

variable (name : String)

/-- The last action is done last. -/
theorem run_append_singleton (h : List Action) (a : Action) :
    run name (h ++ [a]) = (run name h).act a := by
  rw [run, List.foldl_append]
  rfl

/-- A frame with more to come is kept by its publisher. -/
theorem act_send_true (x : Exchange) (p : Nat) (frame : Frame) :
    x.act (.send p frame true) =
      ⟨x.endpoint, Function.update x.publishers p ⟨(x.publishers p).pending ++ [frame]⟩⟩ := rfl

/-- On an open endpoint a last frame delivers the whole message. -/
theorem send_false_of_open {x : Exchange} (hopen : x.endpoint.isClosed = false) (p : Nat)
    (frame : Frame) :
    x.send p frame false =
      (.ok (), ⟨{ x.endpoint with
          seats := x.endpoint.seats.map (·.deliver ((x.publishers p).pending ++ [frame])) },
        Function.update x.publishers p .fresh⟩) := by
  simp [send, Publisher.send, Endpoint.deliver, hopen]

/-- On a closed endpoint a last frame is refused, and nothing is kept. -/
theorem send_false_of_closed {x : Exchange} (hclosed : x.endpoint.isClosed = true) (p : Nat)
    (frame : Frame) :
    x.send p frame false = (.error (.disposed x.endpoint.name),
      ⟨x.endpoint, Function.update x.publishers p .fresh⟩) := by
  simp [send, Publisher.send, Endpoint.deliver, hclosed]

/-- On an open endpoint whoever joins gets a seat. -/
theorem act_join_of_open {x : Exchange} (hopen : x.endpoint.isClosed = false) :
    x.act .join = { x with
      endpoint := { x.endpoint with
        seats := x.endpoint.seats ++ [⟨true, true, .fresh x.endpoint.name⟩] } } := by
  simp [act, Endpoint.join, hopen]

/-- On a closed endpoint nobody gets a seat. -/
theorem act_join_of_closed {x : Exchange} (hclosed : x.endpoint.isClosed = true) :
    x.act .join = x := by
  simp [act, Endpoint.join, hclosed]

/-- An endpoint keeps its name, and is closed by closing it only. -/
theorem endpoint_act (x : Exchange) (a : Action) :
    (x.act a).endpoint.name = x.endpoint.name ∧
      (x.act a).endpoint.isClosed = (x.endpoint.isClosed || decide (a = .close)) := by
  cases a with
  | send p frame more =>
    cases more with
    | true => simp [act_send_true]
    | false =>
      cases hclosed : x.endpoint.isClosed with
      | true => simp [act, send_false_of_closed hclosed, hclosed]
      | false => simp [act, send_false_of_open hclosed, hclosed]
  | join =>
    cases hclosed : x.endpoint.isClosed with
    | true => simp [act_join_of_closed hclosed, hclosed]
    | false => simp [act_join_of_open hclosed, hclosed]
  | leave n => simp [act, Endpoint.leave]
  | close => simp [act, Endpoint.close]

/-- The endpoint keeps its name. -/
theorem name_run (h : List Action) : (run name h).endpoint.name = name := by
  induction h using List.reverseRecOn with
  | nil => rfl
  | append_singleton h a ih => rw [run_append_singleton, (endpoint_act _ a).1, ih]

/-- The endpoint is closed if it has been closed at some time. -/
theorem isClosed_run (h : List Action) :
    (run name h).endpoint.isClosed = decide (.close ∈ h) := by
  induction h using List.reverseRecOn with
  | nil => rfl
  | append_singleton h a ih =>
    rw [run_append_singleton, (endpoint_act _ a).2, ih]
    simp [eq_comm]

/-- An endpoint that has been closed stays closed. -/
theorem isClosed_run_of_mem {h : List Action} (hclose : .close ∈ h) :
    (run name h).endpoint.isClosed = true := by
  rw [isClosed_run]
  exact decide_eq_true hclose

/-- An endpoint that has not been closed is open. -/
theorem isClosed_run_of_not_mem {h : List Action} (hopen : .close ∉ h) :
    (run name h).endpoint.isClosed = false := by
  rw [isClosed_run]
  exact decide_eq_false hopen

/-- What a publisher has pending is the message that it has under way. -/
theorem pending_run (p : Nat) (h : List Action) :
    ((run name h).publishers p).pending = unfinished p h := by
  induction h using List.reverseRecOn with
  | nil => rfl
  | append_singleton h a ih =>
    rw [run_append_singleton]
    cases a with
    | send q frame more =>
      rw [unfinished_append_send]
      have hfresh : ((run name h).act (.send q frame false)).publishers =
          Function.update (run name h).publishers q .fresh := by
        cases hclosed : (run name h).endpoint.isClosed with
        | true => simp [act, send_false_of_closed hclosed]
        | false => simp [act, send_false_of_open hclosed]
      by_cases hq : q = p
      · subst hq
        cases more with
        | true => simp [act_send_true, ih]
        | false => simp [hfresh, Publisher.fresh]
      · have hp : p ≠ q := Ne.symm hq
        cases more with
        | true => simp [act_send_true, hq, hp, ih]
        | false => simp [hfresh, hq, hp, ih]
    | join =>
      rw [unfinished_append_of_sent h rfl, ← ih]
      cases hclosed : (run name h).endpoint.isClosed with
      | true => rw [act_join_of_closed hclosed]
      | false => rw [act_join_of_open hclosed]
    | leave n => rw [unfinished_append_of_sent h rfl, ← ih, act]
    | close => rw [unfinished_append_of_sent h rfl, ← ih, act]

/-- As long as the endpoint is open, everybody who joins gets a seat. -/
theorem length_seats_run (h : List Action) (hopen : .close ∉ h) :
    (run name h).endpoint.seats.length = h.count .join := by
  induction h using List.reverseRecOn with
  | nil => rfl
  | append_singleton h a ih =>
    rw [List.mem_append, not_or] at hopen
    have hbefore := isClosed_run_of_not_mem name hopen.1
    rw [run_append_singleton, List.count_append, ← ih hopen.1]
    cases a with
    | send p frame more =>
      cases more with
      | true => simp [act_send_true]
      | false => simp [act, send_false_of_open hbefore]
    | join => simp [act_join_of_open hbefore]
    | leave n => simp [act, Endpoint.leave]
    | close => exact absurd (List.mem_singleton_self _) hopen.2

/-- **One action.** It puts the message that it completes into the queue of every subscriber that
is there and does not leave by it. -/
theorem seat_act (h : List Action) (a : Action) {n : Nat} {s : Subscriber}
    (hseat : (run name h).endpoint.seats[n]? = some ⟨true, true, s⟩) (hstay : a ≠ .leave n) :
    ∃ s', (run name (h ++ [a])).endpoint.seats[n]? = some ⟨true, true, s'⟩ ∧
      s'.queue = s.queue ++ (delivery h a).toList.map (·.2) := by
  rw [run_append_singleton]
  cases a with
  | send p frame more =>
    cases more with
    | true => exact ⟨s, hseat, by simp [delivery]⟩
    | false =>
      by_cases hmem : .close ∈ h
      · rw [act, send_false_of_closed (isClosed_run_of_mem name hmem)]
        exact ⟨s, hseat, by simp [delivery, hmem]⟩
      · rw [act, send_false_of_open (isClosed_run_of_not_mem name hmem), pending_run]
        refine ⟨s.push (unfinished p h ++ [frame]), ?_, ?_⟩
        · rw [List.getElem?_map, hseat]
          rfl
        · simp [delivery, hmem, Subscriber.push]
  | join =>
    refine ⟨s, ?_, by simp [delivery]⟩
    cases hbefore : (run name h).endpoint.isClosed with
    | true => rw [act_join_of_closed hbefore, hseat]
    | false =>
      rw [act_join_of_open hbefore]
      rw [List.getElem?_append_left (List.getElem?_eq_some_iff.mp hseat).1, hseat]
  | leave m =>
    have hne : m ≠ n := fun hm => hstay (by rw [hm])
    exact ⟨s, by simp [act, Endpoint.leave, hne, hseat], by simp [delivery]⟩
  | close =>
    exact ⟨s.disconnect, by simp [act, Endpoint.close, hseat],
      by simp [delivery, Subscriber.disconnect]⟩

/-- **A stretch of a run.** The queue of a subscriber that is there all the time grows by what is
delivered. -/
theorem seat_run (before during : List Action) {n : Nat} {s : Subscriber}
    (hseat : (run name before).endpoint.seats[n]? = some ⟨true, true, s⟩)
    (hstay : .leave n ∉ during) :
    ∃ s', (run name (before ++ during)).endpoint.seats[n]? = some ⟨true, true, s'⟩ ∧
      s'.queue = s.queue ++ (deliveries before during).map (·.2) := by
  induction during generalizing before s with
  | nil => exact ⟨s, by rw [List.append_nil, hseat], by simp [deliveries]⟩
  | cons a during ih =>
    rw [List.mem_cons, not_or] at hstay
    obtain ⟨s', hseat', hqueue'⟩ := seat_act name before a hseat (Ne.symm hstay.1)
    obtain ⟨s'', hseat'', hqueue''⟩ := ih (before ++ [a]) hseat' hstay.2
    rw [List.append_assoc, List.singleton_append] at hseat''
    refine ⟨s'', hseat'', ?_⟩
    rw [hqueue'', hqueue', deliveries, List.map_append, List.append_assoc]

/-- Who joins an open endpoint sits down behind the others, with nothing in the queue. -/
theorem seat_run_append_join (h : List Action) (hopen : .close ∉ h) :
    (run name (h ++ [.join])).endpoint.seats[h.count .join]? =
      some ⟨true, true, .fresh name⟩ := by
  have hbefore := isClosed_run_of_not_mem name hopen
  rw [run_append_singleton, act_join_of_open hbefore, name_run, ← length_seats_run name h hopen]
  exact List.getElem?_concat_length

/-- A subscriber that is alive sits at its seat. -/
theorem exists_seat_of_alive {n : Nat} {h : List Action} (halive : Alive n h) :
    ∃ s, (run name h).endpoint.seats[n]? = some ⟨true, true, s⟩ := by
  obtain ⟨pre, post, rfl, hopen, rfl, hstay⟩ := halive
  have hjoined := seat_run_append_join name pre hopen
  obtain ⟨s, hseat, -⟩ := seat_run name (pre ++ [.join]) post hjoined hstay
  rw [List.append_assoc, List.singleton_append] at hseat
  exact ⟨s, hseat⟩

/-- Nothing reaches who has left. -/
theorem seat_act_of_left {x : Exchange} (a : Action) {n : Nat} {attached : Bool} {s : Subscriber}
    (hseat : x.endpoint.seats[n]? = some ⟨attached, false, s⟩) :
    ∃ attached' s', (x.act a).endpoint.seats[n]? = some ⟨attached', false, s'⟩ ∧
      s'.queue = s.queue := by
  cases a with
  | send p frame more =>
    cases more with
    | true => exact ⟨attached, s, hseat, rfl⟩
    | false =>
      cases hclosed : x.endpoint.isClosed with
      | true =>
        rw [act, send_false_of_closed hclosed]
        exact ⟨attached, s, hseat, rfl⟩
      | false =>
        -- the first delivery behind the leave gives the seat up
        rw [act, send_false_of_open hclosed]
        refine ⟨false, s, ?_, rfl⟩
        rw [List.getElem?_map, hseat]
        cases attached <;> rfl
  | join =>
    refine ⟨attached, s, ?_, rfl⟩
    cases hclosed : x.endpoint.isClosed with
    | true => rw [act_join_of_closed hclosed, hseat]
    | false =>
      rw [act_join_of_open hclosed]
      rw [List.getElem?_append_left (List.getElem?_eq_some_iff.mp hseat).1, hseat]
  | leave m =>
    refine ⟨attached, s, ?_, rfl⟩
    by_cases hm : m = n <;> simp [act, Endpoint.leave, hm, hseat]
  | close => exact ⟨attached, s.disconnect, by simp [act, Endpoint.close, hseat], rfl⟩

/-- Whoever has left gets nothing more. -/
theorem seat_run_of_left (before during : List Action) {n : Nat} {attached : Bool} {s : Subscriber}
    (hseat : (run name before).endpoint.seats[n]? = some ⟨attached, false, s⟩) :
    ∃ attached' s', (run name (before ++ during)).endpoint.seats[n]? =
      some ⟨attached', false, s'⟩ ∧ s'.queue = s.queue := by
  induction during using List.reverseRecOn with
  | nil => exact ⟨attached, s, by rw [List.append_nil, hseat], rfl⟩
  | append_singleton during a ih =>
    obtain ⟨attached', s', hseat', hqueue'⟩ := ih
    obtain ⟨attached'', s'', hseat'', hqueue''⟩ := seat_act_of_left a hseat'
    rw [← List.append_assoc, run_append_singleton]
    exact ⟨attached'', s'', hseat'', hqueue''.trans hqueue'⟩

/-- A subscriber that is gone has left a seat behind. -/
theorem exists_seat_of_gone {n : Nat} {h : List Action} (hgone : Gone n h) :
    ∃ attached s, (run name h).endpoint.seats[n]? = some ⟨attached, false, s⟩ := by
  obtain ⟨pre, post, rfl, hopen, hcount, hleave⟩ := hgone
  obtain ⟨between, later, rfl, hfirst⟩ := List.eq_append_cons_of_mem hleave
  obtain ⟨s, hseat⟩ := exists_seat_of_alive name
    ⟨pre, between, rfl, hopen, hcount, hfirst⟩
  have hleft : (run name (pre ++ .join :: between ++ [.leave n])).endpoint.seats[n]? =
      some ⟨true, false, s⟩ := by
    rw [run_append_singleton]
    simp [act, Endpoint.leave, hseat]
  obtain ⟨attached, s', hseat', -⟩ := seat_run_of_left name _ later hleft
  refine ⟨attached, s', ?_⟩
  simpa using hseat'

/-- The queue at a seat is the one of the subscriber that sits there. -/
theorem queue?_of_seat {x : Exchange} {n : Nat} {seat : Seat}
    (hseat : x.endpoint.seats[n]? = some seat) : x.queue? n = some seat.subscriber.queue := by
  rw [queue?, Endpoint.subscriber?, hseat]
  rfl

/-- A message without a frame is not sent. -/
theorem sendAll_nil (x : Exchange) (p : Nat) : x.sendAll p [] = (.ok (), x) := by
  simp [sendAll, Publisher.sendAll]

/-- A message of one frame is sent with this frame. -/
theorem sendAll_singleton (x : Exchange) (p : Nat) (frame : Frame) :
    x.sendAll p [frame] = x.send p frame false := by
  have hone : (x.publishers p).sendAll x.endpoint [frame] =
      (x.publishers p).send frame false x.endpoint := by
    rw [Publisher.sendAll]
    split
    · rename_i hsend
      exact hsend.symm
    · rfl
  rw [sendAll, hone, send]

/-- A longer message is sent frame after frame. -/
theorem sendAll_cons_cons (x : Exchange) (p : Nat) (frame next : Frame) (rest : Message) :
    x.sendAll p (frame :: next :: rest) =
      (x.act (.send p frame true)).sendAll p (next :: rest) := by
  simp only [act_send_true, sendAll, Function.update_self, Function.update_idem]
  rfl

/-- A whole message is sent frame by frame. -/
theorem run_frameSteps (p : Nat) (m : Message) (h : List Action) :
    run name (h ++ frameSteps p m) = ((run name h).sendAll p m).2 := by
  induction m generalizing h with
  | nil => rw [frameSteps, List.append_nil, sendAll_nil]
  | cons frame rest ih =>
    rw [frameSteps, List.append_cons, ih, run_append_singleton]
    cases rest with
    | nil =>
      rw [sendAll_nil, sendAll_singleton]
      rfl
    | cons next rest =>
      rw [sendAll_cons_cons]
      rfl

/-- Behind a close a whole message is refused like its last frame. -/
theorem sendAll_of_closed {x : Exchange} (hclosed : x.endpoint.isClosed = true) (p : Nat)
    {m : Message} (hm : m ≠ []) :
    x.sendAll p m = (.error (.disposed x.endpoint.name),
      ⟨x.endpoint, Function.update x.publishers p .fresh⟩) := by
  obtain ⟨frame, rest, rfl⟩ := List.exists_cons_of_ne_nil hm
  have hrefused (sent : List Frame) :
      x.endpoint.deliver (sent ++ frame :: rest) = .error (.disposed x.endpoint.name) := by
    rw [Endpoint.deliver, if_pos hclosed]
  rw [sendAll, Publisher.sendAll_cons, hrefused]

/-- **Every subscriber gets the same whole messages.** Of a new endpoint and any run `before` of
sends of single frames, joins, leaves and closes, and any further run `during` of them:

* who joins an open endpoint starts with an empty queue, and as long as it does not leave its queue
  grows by the deliveries of the run and by nothing else, so that subscribers that are there over
  the same stretch get the same sequence; who has left gets nothing;
* a delivered message is what one publisher has sent since its previous final frame, with its final
  frame, and what is delivered for a publisher are the parcels of its own frames in their order;
* a final frame behind a close is refused, reaches nobody and leaves nothing pending, be it sent
  alone or as the last one of a whole message;
* closing leaves every queue as it is;
* a whole message is sent by steps of single frames. -/
theorem broadcasts_whole_messages (before during : List Action) :
    (.close ∉ before →
      Alive (before.count .join) (before ++ [.join]) ∧
        (run name (before ++ [.join])).queue? (before.count .join) = some []) ∧
    (∀ n, Alive n before → .leave n ∉ during →
      ∃ held, (run name before).queue? n = some held ∧
        (run name (before ++ during)).queue? n =
          some (held ++ (deliveries before during).map (·.2))) ∧
    (∀ n, Gone n before →
      (run name (before ++ during)).queue? n = (run name before).queue? n) ∧
    (∀ p m, (p, m) ∈ deliveries before during ↔
      ∃ mid frame later, during = mid ++ .send p frame false :: later ∧
        .close ∉ before ++ mid ∧ m = unfinished p (before ++ mid) ++ [frame]) ∧
    (∀ p, ((deliveries before during).filter (·.1 = p)).map (·.2) =
      if .close ∈ before then []
      else parcels (unfinished p before) (sent p (during.takeWhile (· ≠ .close)))) ∧
    (∀ p, ((run name before).publishers p).pending = unfinished p before) ∧
    (∀ p frame, .close ∈ before →
      (run name before).send p frame false = (.error (.disposed name),
        ⟨(run name before).endpoint, Function.update (run name before).publishers p .fresh⟩)) ∧
    (∀ p m, .close ∈ before → m ≠ [] →
      (run name before).sendAll p m = (.error (.disposed name),
        ⟨(run name before).endpoint, Function.update (run name before).publishers p .fresh⟩)) ∧
    (∀ n, (run name (before ++ [.close])).queue? n = (run name before).queue? n) ∧
    ∀ p m, run name (before ++ frameSteps p m) = ((run name before).sendAll p m).2 := by
  refine ⟨?_, ?_, ?_, mem_deliveries_iff before during,
    fun p => deliveries_of_publisher p before during, fun p => pending_run name p before,
    ?_, ?_, ?_, fun p m => run_frameSteps name p m before⟩
  · intro hopen
    refine ⟨⟨before, [], rfl, hopen, rfl, List.not_mem_nil⟩, ?_⟩
    exact queue?_of_seat (seat_run_append_join name before hopen)
  · intro n halive hstay
    obtain ⟨s, hseat⟩ := exists_seat_of_alive name halive
    obtain ⟨s', hseat', hqueue⟩ := seat_run name before during hseat hstay
    refine ⟨s.queue, queue?_of_seat hseat, ?_⟩
    rw [queue?_of_seat hseat', hqueue]
  · intro n hgone
    obtain ⟨attached, s, hseat⟩ := exists_seat_of_gone name hgone
    obtain ⟨attached', s', hseat', hqueue⟩ := seat_run_of_left name before during hseat
    rw [queue?_of_seat hseat', queue?_of_seat hseat, hqueue]
  · intro p frame hmem
    rw [send_false_of_closed (isClosed_run_of_mem name hmem), name_run]
  · intro p m hmem hm
    rw [sendAll_of_closed (isClosed_run_of_mem name hmem) p hm, name_run]
  · intro n
    rw [run_append_singleton]
    simp only [act, queue?, Endpoint.subscriber?, Endpoint.close, List.getElem?_map,
      Option.map_map]
    rfl

/-- Two messages under way at once; the second subscriber joins in the middle of both and gets them
whole, and the first one leaves before the second message is complete. -/
example :
    let x := run "e" [.join, .send 0 [1] true, .send 1 [2] true, .join, .send 0 [3] false,
      .leave 0, .send 1 [4] false, .close, .send 0 [5] false]
    x.queue? 0 = some [[[1], [3]]] ∧ x.queue? 1 = some [[[1], [3]], [[2], [4]]] := by
  decide

end

end Exchange

end ActorBus
