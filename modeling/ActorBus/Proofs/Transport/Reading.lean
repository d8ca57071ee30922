import ActorBus.Proofs.Transport.Subscriber
import Mathlib.Data.List.Infix

/-!
# Mixed reads of a subscriber

The owner of a subscriber reads frames, reads messages in three ways and discards the rest of a
message, in any order, while messages are delivered and the endpoint closes. A run is the list of
what was done.

What a read finds is in front of the subscriber (`Front`): the rest of the message under reading,
or the first message that the filters let through. A reader is between two messages or inside one,
and `Keeps` says for both what has been read of the messages that pass the filters and what is left
of them. Each action takes the front, a part of it, or nothing, so each of them keeps this
(`keeps_act`), and `reads_in_order` says what it means to the callers.
-/

set_option autoImplicit false

namespace ActorBus

def Receipt.value? {α : Type} : Receipt α → Option α
  | .received value => some value
  | _ => none

namespace Subscriber

/-- What happens at a subscriber. Looking whether frames of a message are left changes nothing, and
is no action. -/
inductive Action where
  | deliver (m : Message)
  | disconnect
  | nextFrame
  | nextMessage
  | pollMessage
  /-- Waits while messages come; perhaps the endpoint closes before time is up. -/
  | awaitMessage (coming : List Message) (closes : Bool)
  | drain
  deriving DecidableEq, Repr

/-- Waits for a message while others come. Where none of them is read, closing ends the wait. -/
def awaitUntil (coming : List Message) (closes : Bool) (s : Subscriber) :
    Receipt Message × Subscriber :=
  match s.awaitMessage coming with
  | (receipt, s) =>
    if closes then (if receipt = .waiting then .ended else receipt, s.disconnect) else (receipt, s)

def act (s : Subscriber) : Action → Subscriber
  | .deliver m => s.push m
  | .disconnect => s.disconnect
  | .nextFrame => s.nextFrame.2
  | .nextMessage => s.nextMessage.2
  | .pollMessage => s.pollMessage.2
  | .awaitMessage coming closes => (s.awaitUntil coming closes).2
  | .drain => s.drain.2

/-- The messages that come with an action. -/
def Action.arrivals : Action → List Message
  | .deliver m => [m]
  | .awaitMessage coming _ => coming
  | _ => []

/-- The message that an action gives its caller. -/
def message? (s : Subscriber) : Action → Option Message
  | .nextMessage => s.nextMessage.1.value?
  | .pollMessage => s.pollMessage.1.value?
  | .awaitMessage coming closes => (s.awaitUntil coming closes).1.value?
  | _ => none

/-- The frames that an action gives its caller, or discards. -/
def taken (s : Subscriber) : Action → List Frame
  | .nextFrame => s.nextFrame.1.value?.toList.map (·.1)
  | .drain => s.current
  | a => (s.message? a).getD []

/-- A new subscriber with filters, after a run. -/
def run (endpoint : String) (filters : List Frame) (h : List Action) : Subscriber :=
  h.foldl act { fresh endpoint with filters }

/-- The messages delivered along a run. -/
def delivered (h : List Action) : List Message := h.flatMap Action.arrivals

/-- The frames read or discarded along a run. -/
def readFrom : Subscriber → List Action → List Frame
  | _, [] => []
  | s, a :: h => s.taken a ++ readFrom (s.act a) h

/-- The frames that can still be read. -/
def unreadFrames (s : Subscriber) : List Frame :=
  s.current ++ (s.queue.filter s.accepts).flatten

/-- Having read these frames of some messages, a reader stands in front of frame `k` of `m`. -/
def Stands (heard : List Message) (read : List Frame) (m : Message) (k : Nat) : Prop :=
  ∃ done later, heard = done ++ m :: later ∧ read = done.flatten ++ m.take k ∧ k ≤ m.length

/-! ## What a read finds -/

/-- What a read of a whole message takes, and the messages behind it. -/
inductive Front (s : Subscriber) (frames : List Frame) (after : List Message) : Prop where
  | inside (hcur : s.current = frames) (hqueue : s.queue = after) (hne : frames ≠ [])
  | ahead (skipped : List Message) (hcur : s.current = [])
      (hqueue : s.queue = skipped ++ frames :: after) (hskip : ∀ m ∈ skipped, s.skips m)
      (hacc : s.accepts frames = true)

/-- A read of a message takes the front, or finds nothing and passes over what is there. -/
inductive TakesFront (s : Subscriber) : Receipt Message × Subscriber → Prop where
  | taken {frames : List Frame} {after : List Message} (hfront : s.Front frames after) :
      TakesFront s (.received frames, { s with current := [], queue := after })
  | nothing (hcur : s.current = []) (hskip : ∀ m ∈ s.queue, s.skips m) :
      TakesFront s (s.exhausted, { s with queue := [] })

/-- There is a first frame to read, or nothing that is heard. -/
theorem exists_front_or (s : Subscriber) :
    (∃ frame rest after, s.Front (frame :: rest) after) ∨
      s.current = [] ∧ ∀ m ∈ s.queue, s.skips m := by
  rcases hcur : s.current with _ | ⟨frame, rest⟩
  · by_cases hall : ∀ m ∈ s.queue, s.skips m
    · exact .inr ⟨rfl, hall⟩
    · left
      obtain ⟨skipped, m, after, hqueue, hm, hskip⟩ :
          ∃ skipped m after, s.queue = skipped ++ m :: after ∧ ¬ s.skips m ∧
            ∀ m ∈ skipped, s.skips m := by
        obtain ⟨m, hfind⟩ : ∃ m, s.queue.find? (fun m => decide (¬ s.skips m)) = some m := by
          rw [← Option.isSome_iff_exists, List.find?_isSome]
          simpa using hall
        obtain ⟨hm, skipped, after, hqueue, hskip⟩ := List.find?_eq_some_iff_append.mp hfind
        exact ⟨skipped, m, after, hqueue, by simpa using hm, by simpa using hskip⟩
      rw [skips, not_or] at hm
      obtain ⟨frame, rest, rfl⟩ := List.exists_cons_of_ne_nil hm.2
      exact ⟨frame, rest, after, .ahead skipped hcur hqueue hskip (by simpa using hm.1)⟩
  · exact .inl ⟨frame, rest, s.queue, .inside hcur rfl (List.cons_ne_nil _ _)⟩

/-- The next frame is the first one of the front. -/
theorem nextFrame_of_front {s : Subscriber} {frame : Frame} {rest : List Frame}
    {after : List Message} (hfront : s.Front (frame :: rest) after) :
    s.nextFrame =
      (.received (frame, !rest.isEmpty), { s with current := rest, queue := after }) := by
  cases hfront with
  | inside hcur hqueue hne =>
    subst hqueue
    exact nextFrame_of_current s frame rest hcur
  | ahead skipped hcur hqueue hskip hacc =>
    exact nextFrame_of_queue s skipped frame rest after hcur hqueue hskip hacc

/-- Frame by frame the rest of the message under reading comes together. -/
theorem collect_of_current (rest : List Frame) (fuel : Nat) (frames : List Frame) (s : Subscriber)
    (hcur : s.current = rest) (hne : rest ≠ []) (hfuel : rest.length ≤ fuel) :
    collect fuel frames s = (.received (frames ++ rest), { s with current := [] }) := by
  induction rest generalizing fuel frames s with
  | nil => exact absurd rfl hne
  | cons frame rest ih =>
    obtain ⟨fuel, rfl⟩ : ∃ n, fuel = n + 1 := ⟨fuel - 1, by simp at hfuel; omega⟩
    rw [collect, nextFrame_of_current s frame rest hcur]
    cases rest with
    | nil => rfl
    | cons next rest =>
      have hrest := ih fuel (frames ++ [frame]) { s with current := next :: rest } rfl
        (List.cons_ne_nil _ _) (by simpa using hfuel)
      rw [List.append_assoc, List.singleton_append] at hrest
      exact hrest

/-- The next message is the whole front. -/
theorem nextMessage_of_front {s : Subscriber} {frame : Frame} {rest : List Frame}
    {after : List Message} (hfront : s.Front (frame :: rest) after) :
    s.nextMessage = (.received (frame :: rest), { s with current := [], queue := after }) := by
  rw [nextMessage, collect, nextFrame_of_front hfront]
  cases rest with
  | nil => rfl
  | cons next rest =>
    -- what is left of the message is among the unread frames, so the fuel suffices
    have hfuel : (next :: rest).length ≤ s.unread := by
      rw [unread]
      cases hfront with
      | inside hcur hqueue hne =>
        rw [hcur]
        simp only [List.length_cons]
        omega
      | ahead skipped hcur hqueue hskip hacc =>
        rw [hqueue]
        simp only [List.flatten_append, List.flatten_cons, List.length_append,
          List.length_cons]
        omega
    exact collect_of_current (next :: rest) s.unread [frame]
      { s with current := next :: rest, queue := after } rfl (List.cons_ne_nil _ _) hfuel

/-- Where nothing is heard, the queue runs empty. -/
theorem nextMessage_of_forall {s : Subscriber} (hcur : s.current = [])
    (hskip : ∀ m ∈ s.queue, s.skips m) : s.nextMessage = (s.exhausted, { s with queue := [] }) := by
  rw [nextMessage, collect, nextFrame_of_forall s hcur hskip]
  cases hconn : s.connected <;> simp [exhausted, hconn]

/-- To read the next message takes the front. -/
theorem nextMessage_takesFront (s : Subscriber) : s.TakesFront s.nextMessage := by
  rcases s.exists_front_or with ⟨frame, rest, after, hfront⟩ | ⟨hcur, hskip⟩
  · rw [nextMessage_of_front hfront]
    exact .taken hfront
  · rw [nextMessage_of_forall hcur hskip]
    exact .nothing hcur hskip

/-- To poll for a message takes the front. -/
theorem pollMessage_takesFront (s : Subscriber) : s.TakesFront s.pollMessage := by
  rcases hcur : s.current with _ | ⟨frame, rest⟩
  · have hmore : s.hasMore = false := by rw [hasMore, hcur]; rfl
    rw [pollMessage, hmore]
    simp only [Bool.false_eq_true, if_false]
    rcases hdrop : s.queue.dropWhile (fun m => !s.accepts m) with _ | ⟨m, after⟩
    · refine .nothing hcur fun m hm => .inl ?_
      simpa using List.dropWhile_eq_nil_iff.mp hdrop m hm
    · have hqueue := List.takeWhile_append_dropWhile (p := fun m => !s.accepts m) (l := s.queue)
      rw [hdrop] at hqueue
      have hacc : s.accepts m = true := by
        have hhead := List.head?_dropWhile_not (fun m => !s.accepts m) s.queue
        simpa [hdrop] using hhead
      have hfront : s.Front m after := by
        refine .ahead _ hcur hqueue.symm (fun m' hm' => .inl ?_) hacc
        simpa using List.mem_takeWhile_imp hm'
      have htaken := TakesFront.taken hfront
      rw [← hcur] at htaken
      exact htaken
  · have hmore : s.hasMore = true := by rw [hasMore, hcur]; rfl
    rw [pollMessage, hmore, if_pos rfl]
    have hfront : s.Front s.current s.queue := .inside rfl rfl (by simp [hcur])
    exact .taken hfront

/-- To look through messages as they come is to poll when they are there. -/
theorem watch_eq_pollMessage (s : Subscriber) (hcur : s.current = []) (coming : List Message) :
    s.watch coming = { s with queue := coming }.pollMessage := by
  have hmore (coming : List Message) : { s with queue := coming }.hasMore = false := by
    rw [hasMore]
    simp [hcur]
  induction coming with
  | nil =>
    rw [watch, pollMessage, hmore]
    rfl
  | cons m coming ih =>
    rw [watch, ih, pollMessage, pollMessage, hmore, hmore]
    have hsame (m : Message) (queue : List Message) :
        accepts { s with queue } m = s.accepts m := rfl
    simp only [hsame, Bool.false_eq_true, if_false, List.dropWhile_cons]
    cases s.accepts m <;> rfl

/-- Messages that are passed over may as well stand in front of a queue. -/
theorem TakesFront.pass {s : Subscriber} {r : Receipt Message × Subscriber} (queue : List Message)
    (hcur : s.current = []) (hskip : ∀ m ∈ queue, s.skips m) (h : s.TakesFront r) :
    TakesFront { s with queue := queue ++ s.queue } r := by
  cases h with
  | taken hfront =>
    refine .taken ?_
    cases hfront with
    | inside hcur' _ hne => exact absurd (hcur'.symm.trans hcur) hne
    | ahead skipped _ hqueue hskip' hacc =>
      refine .ahead (queue ++ skipped) hcur (by simp [hqueue]) (fun m hm => ?_) hacc
      exact (List.mem_append.mp hm).elim (hskip m) (hskip' m)
  | nothing _ hskip' =>
    refine .nothing (s := { s with queue := queue ++ s.queue }) hcur fun m hm => ?_
    exact (List.mem_append.mp hm).elim (hskip m) (hskip' m)

/-- Waiting takes the front of all messages, those that come included. A subscriber to which none
can come any more passes over what was there. -/
theorem awaitMessage_cases (s : Subscriber) (coming : List Message) :
    TakesFront { s with queue := s.queue ++ coming } (s.awaitMessage coming) ∨
      s.current = [] ∧ (∀ m ∈ s.queue, s.skips m) ∧
        s.awaitMessage coming = (.ended, { s with queue := coming }) := by
  have hpoll := s.pollMessage_takesFront
  rw [awaitMessage]
  rcases heq : s.pollMessage with ⟨receipt, polled⟩
  rw [heq] at hpoll
  cases hpoll with
  | taken hfront =>
    left
    refine .taken ?_
    cases hfront with
    | inside hcur hqueue hne => exact .inside hcur (by rw [hqueue]) hne
    | ahead skipped hcur hqueue hskip hacc =>
      exact .ahead skipped hcur (by simp [hqueue]) hskip hacc
  | nothing hcur hskip =>
    by_cases hconn : s.connected = true
    · left
      have hexhausted : (s.exhausted : Receipt Message) = .waiting := by simp [exhausted, hconn]
      rw [hexhausted]
      change TakesFront _ (watch { s with queue := [] } coming)
      rw [watch_eq_pollMessage { s with queue := [] } hcur coming]
      exact TakesFront.pass (s := { s with queue := coming }) s.queue hcur hskip
        (pollMessage_takesFront _)
    · right
      have hexhausted : (s.exhausted : Receipt Message) = .ended := by simp [exhausted, hconn]
      rw [hexhausted]
      exact ⟨hcur, hskip, rfl⟩

/-- A queue that has run empty gives nothing. -/
theorem exhausted_value? {α : Type} (s : Subscriber) :
    (s.exhausted : Receipt α).value? = none := by
  rw [exhausted]
  split <;> rfl

/-! ## What every action keeps -/

/-- Of the messages that the filters let through, `heard`, these frames have been read, and the
others are left. -/
inductive Keeps (heard : List Message) (read : List Frame) (s : Subscriber) : Prop where
  | between (done : List Message) (hcur : s.current = [])
      (hheard : heard = done ++ s.queue.filter s.accepts) (hread : read = done.flatten)
  | inside (done : List Message) (before : List Frame) (hbefore : before ≠ [])
      (hcur : s.current ≠ [])
      (hheard : heard = done ++ (before ++ s.current) :: s.queue.filter s.accepts)
      (hread : read = done.flatten ++ before)

namespace Keeps

variable {heard : List Message} {read : List Frame} {s : Subscriber}

/-- What was read and what waits to be read is all that was heard. -/
theorem unread (h : s.Keeps heard read) : read ++ s.unreadFrames = heard.flatten := by
  rw [unreadFrames]
  cases h with
  | between done hcur hheard hread => simp [hcur, hheard, hread]
  | inside done before _ _ hheard hread => simp [hheard, hread]

/-- To disconnect loses nothing that waits. -/
theorem disconnect (h : s.Keeps heard read) : s.disconnect.Keeps heard read := by
  cases h with
  | between done hcur hheard hread => exact .between done hcur hheard hread
  | inside done before hbefore hcur hheard hread =>
    exact .inside done before hbefore hcur hheard hread

/-- Messages that arrive are heard behind the others. -/
theorem arrive (h : s.Keeps heard read) (coming : List Message) :
    Keeps (heard ++ coming.filter s.accepts) read { s with queue := s.queue ++ coming } := by
  have hfilter : (s.queue ++ coming).filter s.accepts =
      s.queue.filter s.accepts ++ coming.filter s.accepts := List.filter_append ..
  cases h with
  | between done hcur hheard hread =>
    refine .between done hcur ?_ hread
    rw [hheard, List.append_assoc, ← hfilter]
    rfl
  | inside done before hbefore hcur hheard hread =>
    refine .inside done before hbefore hcur ?_ hread
    rw [hheard, List.append_assoc, List.cons_append, ← hfilter]
    rfl

/-- A message that is passed over and lets itself be heard has no frame. -/
theorem flatten_filter_of_skips {skipped : List Message} (hskip : ∀ m ∈ skipped, s.skips m) :
    (skipped.filter s.accepts).flatten = [] := by
  rw [List.flatten_eq_nil_iff]
  intro m hm
  obtain ⟨hmem, hacc⟩ := List.mem_filter.mp hm
  rcases hskip m hmem with hrefused | hempty
  · rw [hrefused] at hacc
    cases hacc
  · exact hempty

/-- Messages that are not heard are passed over. -/
theorem pass {skipped after : List Message} (h : s.Keeps heard read) (hcur : s.current = [])
    (hqueue : s.queue = skipped ++ after) (hskip : ∀ m ∈ skipped, s.skips m) :
    Keeps heard read { s with queue := after } := by
  cases h with
  | between done _ hheard hread =>
    refine .between (done ++ skipped.filter s.accepts) hcur ?_ ?_
    · rw [hheard, hqueue, List.filter_append, List.append_assoc]
      rfl
    · rw [hread, List.flatten_append, flatten_filter_of_skips hskip, List.append_nil]
  | inside done before hbefore hcur' => exact absurd hcur hcur'

/-- The front is what is left of a message, and that message is the next of those not read. -/
theorem front {frames : List Frame} {after : List Message} (h : s.Keeps heard read)
    (hfront : s.Front frames after) :
    ∃ done before, heard = done ++ (before ++ frames) :: after.filter s.accepts ∧
      read = done.flatten ++ before ∧ (frames = [] → before = []) := by
  cases hfront with
  | inside hcur hqueue hne =>
    cases h with
    | between done hcur' => exact absurd (hcur.symm.trans hcur') hne
    | inside done before _ _ hheard hread =>
      exact ⟨done, before, by rw [hheard, hcur, hqueue], hread, fun h => absurd h hne⟩
  | ahead skipped hcur hqueue hskip hacc =>
    cases h with
    | between done _ hheard hread =>
      refine ⟨done ++ skipped.filter s.accepts, [], ?_, ?_, fun _ => rfl⟩
      · rw [hheard, hqueue, List.filter_append, List.filter_cons_of_pos hacc, List.append_assoc]
        rfl
      · rw [hread, List.flatten_append, flatten_filter_of_skips hskip, List.append_nil,
          List.append_nil]
    | inside done before _ hcur' => exact absurd hcur hcur'

/-- Reading the first frames of the front, and what is left of it then. -/
theorem take (h : s.Keeps heard read) (given rest : List Frame) {after : List Message}
    (hfront : s.Front (given ++ rest) after) (hgiven : rest = [] ∨ given ≠ []) :
    Keeps heard (read ++ given) { s with current := rest, queue := after } := by
  obtain ⟨done, before, hheard, hread, _⟩ := h.front hfront
  -- with nothing left the message is done, and otherwise the reader is inside of it
  by_cases hrest : rest = []
  · subst hrest
    refine .between (done ++ [before ++ given]) rfl ?_ ?_
    · rw [hheard, List.append_nil, List.append_assoc]
      rfl
    · rw [hread, List.flatten_append, List.flatten_singleton, List.append_assoc]
  · refine .inside done (before ++ given) ?_ hrest ?_ ?_
    · simp [hgiven.resolve_left hrest]
    · rw [hheard, List.append_assoc]
      rfl
    · rw [hread, List.append_assoc]

/-- To take the front reads what it gives. -/
theorem takesFront {r : Receipt Message × Subscriber} (h : s.Keeps heard read)
    (hr : s.TakesFront r) : Keeps heard (read ++ r.1.value?.getD []) r.2 := by
  cases hr with
  | @taken frames after hfront =>
    rw [← List.append_nil frames] at hfront
    exact h.take frames [] hfront (.inl rfl)
  | nothing hcur hskip =>
    rw [exhausted_value?, Option.getD_none, List.append_nil]
    exact h.pass hcur (List.append_nil _).symm hskip

end Keeps

/-- The end of the waiting time changes nothing about what is given. -/
theorem awaitUntil_value? (coming : List Message) (closes : Bool) (s : Subscriber) :
    (s.awaitUntil coming closes).1.value? = (s.awaitMessage coming).1.value? := by
  rw [awaitUntil]
  rcases s.awaitMessage coming with ⟨receipt, waited⟩
  cases closes
  · rfl
  · cases receipt <;> rfl

/-- The end of the waiting time disconnects at most. -/
theorem awaitUntil_snd (coming : List Message) (closes : Bool) (s : Subscriber) :
    (s.awaitUntil coming closes).2 =
      if closes then (s.awaitMessage coming).2.disconnect else (s.awaitMessage coming).2 := by
  rw [awaitUntil]
  rcases s.awaitMessage coming with ⟨receipt, waited⟩
  cases closes <;> rfl

/-- No action changes the filters. -/
theorem filters_act (s : Subscriber) (a : Action) : (s.act a).filters = s.filters := by
  have htakes {s : Subscriber} {r : Receipt Message × Subscriber} (h : s.TakesFront r) :
      r.2.filters = s.filters := by
    cases h <;> rfl
  cases a with
  | deliver m => rfl
  | disconnect => rfl
  | nextFrame =>
    rcases s.exists_front_or with ⟨frame, rest, after, hfront⟩ | ⟨hcur, hskip⟩
    · rw [act, nextFrame_of_front hfront]
    · rw [act, nextFrame_of_forall s hcur hskip]
  | nextMessage => exact htakes s.nextMessage_takesFront
  | pollMessage => exact htakes s.pollMessage_takesFront
  | awaitMessage coming closes =>
    have hawait : (s.awaitMessage coming).2.filters = s.filters := by
      rcases s.awaitMessage_cases coming with h | ⟨_, _, h⟩
      · exact htakes (s := { s with queue := s.queue ++ coming }) h
      · rw [h]
    rw [act, awaitUntil_snd]
    cases closes
    · exact hawait
    · exact hawait
  | drain => rfl

/-- No action changes what is heard. -/
theorem accepts_act (s : Subscriber) (a : Action) : (s.act a).accepts = s.accepts := by
  funext m
  rw [accepts, accepts, filters_act]

/-- To wait for a message reads what it gives. -/
theorem Keeps.awaitMessage {heard : List Message} {read : List Frame} {s : Subscriber}
    (h : s.Keeps heard read) (coming : List Message) :
    Keeps (heard ++ coming.filter s.accepts)
      (read ++ (s.awaitMessage coming).1.value?.getD []) (s.awaitMessage coming).2 := by
  rcases s.awaitMessage_cases coming with htakes | ⟨hcur, hskip, heq⟩
  · exact (h.arrive coming).takesFront htakes
  · rw [heq]
    change Keeps _ (read ++ []) _
    rw [List.append_nil]
    exact (h.arrive coming).pass hcur rfl hskip

/-- **Every action keeps the reader in step** with what it has been given. -/
theorem keeps_act {heard : List Message} {read : List Frame} {s : Subscriber}
    (h : s.Keeps heard read) (a : Action) :
    (s.act a).Keeps (heard ++ a.arrivals.filter s.accepts) (read ++ s.taken a) := by
  cases a with
  | deliver m =>
    have hpush := h.arrive [m]
    rwa [← List.append_nil read] at hpush
  | disconnect =>
    have hdisconnect := h.disconnect
    rwa [← List.append_nil read, ← List.append_nil heard] at hdisconnect
  | nextFrame =>
    change Keeps (heard ++ []) (read ++ s.nextFrame.1.value?.toList.map (·.1)) s.nextFrame.2
    rw [List.append_nil]
    rcases s.exists_front_or with ⟨frame, rest, after, hfront⟩ | ⟨hcur, hskip⟩
    · rw [nextFrame_of_front hfront]
      exact h.take [frame] rest hfront (.inr (List.cons_ne_nil _ _))
    · rw [nextFrame_of_forall s hcur hskip, exhausted_value?]
      change Keeps heard (read ++ []) _
      rw [List.append_nil]
      exact h.pass hcur (List.append_nil _).symm hskip
  | nextMessage =>
    rw [← List.append_nil heard] at h
    exact h.takesFront s.nextMessage_takesFront
  | pollMessage =>
    rw [← List.append_nil heard] at h
    exact h.takesFront s.pollMessage_takesFront
  | awaitMessage coming closes =>
    have hawait := h.awaitMessage coming
    change Keeps _ (read ++ (s.awaitUntil coming closes).1.value?.getD [])
      (s.awaitUntil coming closes).2
    rw [awaitUntil_snd, awaitUntil_value?]
    cases closes
    · exact hawait
    · exact hawait.disconnect
  | drain =>
    change Keeps (heard ++ []) (read ++ s.current) { s with current := [] }
    rw [List.append_nil]
    by_cases hcur : s.current = []
    · rw [hcur, List.append_nil, ← hcur]
      exact h
    · have hfront : s.Front (s.current ++ []) s.queue :=
        .inside (List.append_nil _).symm rfl (by simpa using hcur)
      exact h.take s.current [] hfront (.inl rfl)

/-! ## Runs -/

/-- Along a history everything that is heard is read or waits. -/
theorem keeps_foldl (h : List Action) {heard : List Message} {read : List Frame} {s : Subscriber}
    (hkeeps : s.Keeps heard read) :
    (h.foldl act s).Keeps (heard ++ (delivered h).filter s.accepts) (read ++ s.readFrom h) := by
  induction h generalizing heard read s with
  | nil => simpa [delivered, readFrom] using hkeeps
  | cons a h ih =>
    have hrest := ih (keeps_act hkeeps a)
    rw [accepts_act, List.append_assoc, ← List.filter_append, List.append_assoc] at hrest
    exact hrest

/-- No history changes what is heard. -/
theorem accepts_foldl (h : List Action) (s : Subscriber) :
    (h.foldl act s).accepts = s.accepts := by
  induction h generalizing s with
  | nil => rfl
  | cons a h ih => exact (ih (s.act a)).trans (accepts_act s a)

/-- From the beginning everything that is heard is read or waits. -/
theorem keeps_run (endpoint : String) (filters : List Frame) (h : List Action) :
    (run endpoint filters h).Keeps
      ((delivered h).filter (run endpoint filters h).accepts)
      (readFrom { fresh endpoint with filters } h) := by
  have hnew : Keeps [] [] { fresh endpoint with filters } := .between [] rfl rfl rfl
  have hrun := keeps_foldl h hnew
  rw [run, accepts_foldl]
  exact hrun

/-- Who has read whole messages is not strictly inside of one. -/
theorem not_stands_of_flatten {done later : List Message} {m : Message} {k : Nat}
    (hk : 0 < k) (hlt : k < m.length) :
    ¬ Stands (done ++ later) done.flatten m k := by
  rintro ⟨done', later', hheard, hread, _⟩
  have hlength := congrArg List.length hread
  rw [List.length_append, List.length_take, Nat.min_eq_left hlt.le] at hlength
  have hbegins : done' ++ [m] <+: done ++ later := ⟨later', by simp [hheard]⟩
  rcases List.prefix_or_prefix_of_prefix (List.prefix_append done later) hbegins with h | h
  · rcases List.prefix_concat_iff.mp h with rfl | ⟨rest, rfl⟩
    · simp at hlength
      omega
    · simp at hlength
      omega
  · obtain ⟨rest, rfl⟩ := h
    simp at hlength
    omega

/-- There is more if a message has been read in part. -/
theorem Keeps.hasMore_iff {heard : List Message} {read : List Frame} {s : Subscriber}
    (h : s.Keeps heard read) :
    s.hasMore = true ↔ ∃ m k, Stands heard read m k ∧ 0 < k ∧ k < m.length := by
  have hmore : s.hasMore = true ↔ s.current ≠ [] := by simp [hasMore]
  rw [hmore]
  cases h with
  | between done hcur hheard hread =>
    subst hheard hread
    refine iff_of_false (fun hne => hne hcur) ?_
    rintro ⟨m, k, hstands, hk, hlt⟩
    exact not_stands_of_flatten hk hlt hstands
  | inside done before hbefore hcur hheard hread =>
    refine iff_of_true hcur ⟨before ++ s.current, before.length, ?_, ?_, ?_⟩
    · exact ⟨done, _, hheard, by rw [hread, List.take_left], by simp⟩
    · exact List.length_pos_iff.mpr hbefore
    · have hpos := List.length_pos_iff.mpr hcur
      rw [List.length_append]
      omega

/-- Where the front is, the reader stands: what it takes is the rest of a message. -/
theorem Keeps.stands {heard : List Message} {read : List Frame} {s : Subscriber}
    {frames : List Frame} {after : List Message} (h : s.Keeps heard read)
    (hfront : s.Front frames after) :
    ∃ m k, Stands heard read m k ∧ frames = m.drop k ∧ (frames = [] → m = []) := by
  obtain ⟨done, before, hheard, hread, hempty⟩ := h.front hfront
  refine ⟨before ++ frames, before.length, ⟨done, _, hheard, ?_, ?_⟩, ?_, ?_⟩
  · rw [hread, List.take_left]
  · simp
  · rw [List.drop_left]
  · intro hnil
    rw [hnil, hempty hnil, List.append_nil]

/-- A message that is given is the rest of the one where the reader stands. -/
theorem Keeps.stands_of_message? {heard : List Message} {read : List Frame} {s : Subscriber}
    (h : s.Keeps heard read) (a : Action) (message : Message)
    (hgiven : s.message? a = some message) :
    ∃ m k, Stands (heard ++ a.arrivals.filter s.accepts) read m k ∧ message = m.drop k ∧
      (message = [] → m = []) := by
  -- a read that gives a message has taken the front
  have htaken {heard : List Message} {s : Subscriber} {r : Receipt Message × Subscriber}
      (h : s.Keeps heard read) (hr : s.TakesFront r) (hvalue : r.1.value? = some message) :
      ∃ m k, Stands heard read m k ∧ message = m.drop k ∧ (message = [] → m = []) := by
    cases hr with
    | taken hfront =>
      cases hvalue
      exact h.stands hfront
    | nothing =>
      rw [exhausted_value?] at hvalue
      cases hvalue
  cases a with
  | nextMessage =>
    rw [← List.append_nil heard] at h
    exact htaken h s.nextMessage_takesFront hgiven
  | pollMessage =>
    rw [← List.append_nil heard] at h
    exact htaken h s.pollMessage_takesFront hgiven
  | awaitMessage coming closes =>
    rw [message?, awaitUntil_value?] at hgiven
    rcases s.awaitMessage_cases coming with htakes | ⟨_, _, heq⟩
    · exact htaken (h.arrive coming) htakes hgiven
    · rw [heq] at hgiven
      cases hgiven
  | _ => cases hgiven

/-- A frame that is given is the one where the reader stands. -/
theorem Keeps.stands_of_nextFrame {heard : List Message} {read : List Frame} {s : Subscriber}
    (h : s.Keeps heard read) (frame : Frame) (more : Bool)
    (hgiven : s.nextFrame.1 = .received (frame, more)) :
    ∃ m k, Stands heard read m k ∧ m[k]? = some frame ∧ (more = false ↔ k + 1 = m.length) := by
  rcases s.exists_front_or with ⟨first, rest, after, hfront⟩ | ⟨hcur, hskip⟩
  · rw [nextFrame_of_front hfront] at hgiven
    cases hgiven
    obtain ⟨m, k, hstands, hdrop, _⟩ := h.stands hfront
    have hlength := congrArg List.length hdrop
    rw [List.length_drop, List.length_cons] at hlength
    refine ⟨m, k, hstands, ?_, ?_⟩
    · have hfirst := congrArg (·[0]?) hdrop
      simpa using hfirst.symm
    · have hempty : (!rest.isEmpty) = false ↔ rest.length = 0 := by simp
      rw [hempty]
      omega
  · have hvalue := congrArg Receipt.value? hgiven
    rw [nextFrame_of_forall s hcur hskip, exhausted_value?] at hvalue
    cases hvalue

/-- Where nothing is heard, no frame waits. -/
theorem unreadFrames_of_forall {s : Subscriber} (hcur : s.current = [])
    (hskip : ∀ m ∈ s.queue, s.skips m) : s.unreadFrames = [] := by
  rw [unreadFrames, hcur, Keeps.flatten_filter_of_skips hskip, List.append_nil]

/-- Where a frame is left, every read gives one. -/
theorem isSome_of_unreadFrames (s : Subscriber) (hunread : s.unreadFrames ≠ []) :
    s.nextFrame.1.value?.isSome ∧ s.nextMessage.1.value?.isSome ∧
      s.pollMessage.1.value?.isSome ∧
      ∀ coming closes, (s.awaitUntil coming closes).1.value?.isSome := by
  have htakes {r : Receipt Message × Subscriber} (h : s.TakesFront r) : r.1.value?.isSome := by
    cases h with
    | taken => rfl
    | nothing hcur hskip => exact absurd (unreadFrames_of_forall hcur hskip) hunread
  refine ⟨?_, htakes s.nextMessage_takesFront, htakes s.pollMessage_takesFront, ?_⟩
  · rcases s.exists_front_or with ⟨frame, rest, after, hfront⟩ | ⟨hcur, hskip⟩
    · rw [nextFrame_of_front hfront]
      rfl
    · exact absurd (unreadFrames_of_forall hcur hskip) hunread
  · intro coming closes
    have hpoll := htakes s.pollMessage_takesFront
    rw [awaitUntil_value?, awaitMessage]
    rcases heq : s.pollMessage with ⟨receipt, polled⟩
    rw [heq] at hpoll
    cases receipt with
    | received message => rfl
    | ended => cases hpoll
    | waiting => cases hpoll

/-- **Mixed reads stay in order.** After any run: the frames read or discarded, and then the unread
ones, are those of the delivered messages that pass the filters; a frame that is read next is the
next frame of a message, and the last one exactly if no more follow; a message that is read is one
message from the place of the reader to its end; discarding says how many frames it takes, and
leaves none of the message; frames of a message are left exactly if the reader is strictly inside of
one; and where a frame is unread, no read comes back without one. -/
theorem reads_in_order (endpoint : String) (filters : List Frame) (h : List Action) :
    let s := run endpoint filters h
    let read := readFrom { fresh endpoint with filters } h
    let heard := (delivered h).filter s.accepts
    read ++ s.unreadFrames = heard.flatten ∧
      (∀ frame more, s.nextFrame.1 = .received (frame, more) →
        ∃ m k, Stands heard read m k ∧ m[k]? = some frame ∧ (more = false ↔ k + 1 = m.length)) ∧
      (∀ a message, s.message? a = some message →
        ∃ m k, Stands (heard ++ a.arrivals.filter s.accepts) read m k ∧ message = m.drop k ∧
          (message = [] → m = [])) ∧
      s.drain.1 = (s.taken .drain).length ∧ s.drain.2.hasMore = false ∧
      (s.hasMore = true ↔ ∃ m k, Stands heard read m k ∧ 0 < k ∧ k < m.length) ∧
      (s.unreadFrames ≠ [] →
        s.nextFrame.1.value?.isSome ∧ s.nextMessage.1.value?.isSome ∧
          s.pollMessage.1.value?.isSome ∧
          ∀ coming closes, (s.awaitUntil coming closes).1.value?.isSome) := by
  intro s read heard
  have hkeeps : s.Keeps heard read := keeps_run endpoint filters h
  exact ⟨hkeeps.unread, hkeeps.stands_of_nextFrame, hkeeps.stands_of_message?, rfl, rfl,
    hkeeps.hasMore_iff, s.isSome_of_unreadFrames⟩

/-- After one frame, reading a message gives the rest of it, and discarding takes as many frames.
The message in between does not pass the filter. -/
example :
    let s := run "in" [[7]]
      [.deliver [[7], [1], [2]], .deliver [[8], [7]], .deliver [[7, 7]], .nextFrame]
    s.hasMore = true ∧ s.nextMessage.1 = .received [[1], [2]] ∧ s.drain.1 = 2 ∧
      s.drain.2.nextFrame.1 = .received ([7, 7], false) := by
  decide

end Subscriber

end ActorBus
