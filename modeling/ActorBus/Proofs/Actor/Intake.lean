import ActorBus.Actor.Basic
import ActorBus.Proofs.Transport.Subscriber

/-!
# Taking in a message and reading it as a whole

An actor pulls the frames of a message off its subscriber and has to discard what is left of it on
every early end; `Message.decode` goes through a list. `Message.intake` stands between the two: it
goes through a list too, and ends as the actor's intake does, with the token of a failed call.

`take_eq_intakeFrom` removes the subscriber, the fuel and the flag that more frames follow: the
intake of a message is `Message.intake`, and the subscriber is left between messages.
`intakeFrom_agrees` compares the two recursions over a list. `Verdict` is what the actor makes of
an intake once its workload has looked at the payload.
-/

set_option autoImplicit false

namespace ActorBus

namespace Message

/-- The intake of the frames from a given place on, when all of them are at hand. -/
def intakeFrom (codec : Codec) (index : Nat) (s : Assembly) : List Frame → Intake
  | [] =>
    match s.finish with
    | .ok e => .complete e
    | .error e => .failed ⟨index, e⟩ s.token?
  | frame :: rest =>
    match s.accept codec index frame with
    | (s, .ok .proceed) => intakeFrom codec (index + 1) s rest
    | (_, .ok .stop) => .stopped
    | (s, .error e) => .failed ⟨index, e⟩ s.token?

/-- The intake of a message that is at hand as a whole. -/
def intake (codec : Codec) (m : Message) : Intake := intakeFrom codec 0 .empty m

end Message

namespace Intake

/-- An intake ended the way a message was read: both stopped, both gave the same envelope, or both
failed with the same error at the same frame. -/
def Agrees : Intake → Except DecodeFailure Decoded → Prop
  | .stopped, .ok (.stop _) => True
  | .complete e, .ok (.message e') => e = e'
  | .failed f _, .error f' => f = f'
  | _, _ => False

/-- **The subscriber adds nothing.** Taking the rest of a message off a subscriber ends as going
through the list of its frames does, and leaves no frame of the message unread. -/
theorem take_eq_intakeFrom (codec : Codec) (rest : List Frame) (index : Nat) (frame : Frame)
    (s : Assembly) (inbox : Subscriber) (h : inbox.current = rest) :
    take codec rest.length index frame (!rest.isEmpty) s inbox =
      (Message.intakeFrom codec index s (frame :: rest), { inbox with current := [] }) := by
  induction rest generalizing index frame s inbox with
  | nil =>
    rw [take, Message.intakeFrom]
    rcases hacc : s.accept codec index frame with ⟨s', e | _ | _⟩
    · simp [Subscriber.drain]
    · simp only [List.length_nil, List.isEmpty_nil, Bool.not_true]
      rw [close, Message.intakeFrom]
      cases inbox
      simp only at h
      subst h
      cases s'.finish <;> rfl
    · simp [Subscriber.drain]
  | cons next rest ih =>
    -- the fuel is the count of unread frames, so the message ends before it does
    rw [take, Message.intakeFrom]
    rcases hacc : s.accept codec index frame with ⟨s', e | _ | _⟩
    · simp [Subscriber.drain]
    · simp only [List.length_cons, List.isEmpty_cons, Bool.not_false]
      rw [Subscriber.nextFrame_of_current inbox next rest h]
      exact ih (index + 1) next s' { inbox with current := rest } rfl
    · simp [Subscriber.drain]

/-- The intake of a message whose first frame has just been read. -/
theorem start_eq_intake (codec : Codec) (frame : Frame) (inbox : Subscriber) :
    start codec frame (!inbox.current.isEmpty) inbox =
      (Message.intake codec (frame :: inbox.current), { inbox with current := [] }) :=
  take_eq_intakeFrom codec inbox.current 0 frame .empty inbox rfl

/-- Going through the frames for an intake and for a decoded message are one recursion. -/
theorem intakeFrom_agrees (codec : Codec) (index : Nat) (s : Assembly) (frames : List Frame) :
    (Message.intakeFrom codec index s frames).Agrees
      (Message.decodeFrom codec index s frames) := by
  induction frames generalizing index s with
  | nil =>
    rw [Message.intakeFrom, Message.decodeFrom]
    cases s.finish with
    | error e => rfl
    | ok e => rfl
  | cons frame rest ih =>
    rw [Message.intakeFrom, Message.decodeFrom]
    rcases s.accept codec index frame with ⟨s', e | _ | _⟩
    · rfl
    · exact ih (index + 1) s'
    · trivial

/-- The intake of a whole message agrees with reading it. -/
theorem intake_agrees (codec : Codec) (m : Message) :
    (Message.intake codec m).Agrees (Message.decode codec m) :=
  intakeFrom_agrees codec 0 .empty m

/-- A message is a stop order, an envelope or unreadable, to its intake as to its reading. -/
theorem intake_cases (codec : Codec) (m : Message) :
    (∃ address, Message.intake codec m = .stopped ∧
      Message.decode codec m = .ok (.stop address)) ∨
    (∃ e, Message.intake codec m = .complete e ∧ Message.decode codec m = .ok (.message e)) ∨
    (∃ f token, Message.intake codec m = .failed f token ∧ Message.decode codec m = .error f) := by
  have h := intake_agrees codec m
  rcases hi : Message.intake codec m with _ | e | ⟨f, token⟩ <;>
    rcases hd : Message.decode codec m with f' | address | e' <;>
    rw [hi, hd] at h
  case stopped.ok.stop => exact .inl ⟨address, rfl, rfl⟩
  case complete.ok.message => exact .inr (.inl ⟨e, rfl, by rw [show e = e' from h]⟩)
  case failed.error => exact .inr (.inr ⟨f, token, rfl, by rw [show f = f' from h]⟩)
  all_goals exact h.elim

/-- An intake is stopped exactly by a stop order. -/
theorem intake_eq_stopped_iff (codec : Codec) (m : Message) :
    Message.intake codec m = .stopped ↔
      ∃ address, Message.decode codec m = .ok (.stop address) := by
  rcases intake_cases codec m with ⟨a, hi, hd⟩ | ⟨e, hi, hd⟩ | ⟨f, token, hi, hd⟩ <;> simp [hi, hd]

/-- A message is taken in as an envelope exactly when it reads as that envelope. -/
theorem intake_eq_complete_iff (codec : Codec) (m : Message) (e : Envelope) :
    Message.intake codec m = .complete e ↔ Message.decode codec m = .ok (.message e) := by
  rcases intake_cases codec m with ⟨a, hi, hd⟩ | ⟨e, hi, hd⟩ | ⟨f, token, hi, hd⟩ <;> simp [hi, hd]

/-- An intake fails exactly where reading fails, with the same error at the same frame. -/
theorem exists_intake_eq_failed_iff (codec : Codec) (m : Message) (f : DecodeFailure) :
    (∃ token, Message.intake codec m = .failed f token) ↔
      Message.decode codec m = .error f := by
  rcases intake_cases codec m with ⟨a, hi, hd⟩ | ⟨e, hi, hd⟩ | ⟨f, token, hi, hd⟩ <;> simp [hi, hd]

end Intake

/-- What an actor decides to do about a message. -/
inductive Verdict where
  | stop
  | dispatch (e : Envelope)
  | failure (f : DecodeFailure)
  deriving DecidableEq, Repr

namespace Workload

variable {ω σ : Type}

/-- Why a workload cannot be handed a second frame: it is no payload of the workload's type. -/
def payloadFault? (codec : Codec) (frame : Frame) : Workload ω σ → Option CodecError
  | .payload type _ _ =>
    match type.decode codec frame with
    | .ok _ => none
    | .error e => some e
  | _ => none

/-- The verdict on a message that has been taken in: a payload workload can still refuse it. -/
def verdict (w : Workload ω σ) (codec : Codec) : Intake → Verdict
  | .stopped => .stop
  | .failed f _ => .failure f
  | .complete e =>
    match w.decodePayload codec e.kind with
    | .ok _ => .dispatch e
    | .error error => .failure ⟨1, error⟩

/-- Decoding the payload fails with the fault of the frame. -/
theorem decodePayload_eq_error_iff (w : Workload ω σ) (codec : Codec) (frame : Frame)
    (error : CodecError) :
    w.decodePayload codec frame = .error error ↔ w.payloadFault? codec frame = some error := by
  cases w with
  | payload type pending handle =>
    simp only [decodePayload, payloadFault?]
    cases type.decode codec frame <;> simp [Except.map]
  | route handle => simp [decodePayload, payloadFault?]
  | invocation handle => simp [decodePayload, payloadFault?]

/-- The verdict on a message that reads as an envelope. -/
theorem verdict_complete (w : Workload ω σ) (codec : Codec) (e : Envelope) :
    w.verdict codec (.complete e) =
      match w.payloadFault? codec e.kind with
      | none => .dispatch e
      | some error => .failure ⟨1, error⟩ := by
  rw [verdict]
  cases hd : w.decodePayload codec e.kind with
  | error error => rw [(decodePayload_eq_error_iff w codec e.kind error).mp hd]
  | ok loaded =>
    cases hf : w.payloadFault? codec e.kind with
    | none => rfl
    | some error =>
      rw [(decodePayload_eq_error_iff w codec e.kind error).mpr hf] at hd
      cases hd

end Workload

namespace Actor

variable {ω σ : Type}

/-- An actor acts on the verdict: it stops, reports the failure and answers the caller that the
intake names, or hands the envelope to its workload with the payload in place. -/
theorem handle_of_verdict (intake : Intake) (a : Actor ω σ) (b : Bus σ) :
    match a.workload.verdict a.profile.codec intake with
    | .stop => handle intake a b = stop a b
    | .failure f => ∃ token, handle intake a b = reject f a (failCall token f.error.message b)
    | .dispatch e => ∃ loaded, a.workload.decodePayload a.profile.codec e.kind = .ok loaded ∧
        handle intake a b = dispatch e { a with workload := loaded } b := by
  cases intake with
  | stopped => rfl
  | failed f token => exact ⟨token, rfl⟩
  | complete e =>
    simp only [Workload.verdict, handle]
    cases hd : a.workload.decodePayload a.profile.codec e.kind with
    | error error => exact ⟨none, rfl⟩
    | ok loaded => exact ⟨loaded, hd, rfl⟩

/-- **Streaming agrees with buffering.** Wherever a nonempty message stands first among those that
a subscriber reads, its intake ends as the message reads as a whole: the same stop orders, the same
errors at the same frames, and the same envelopes, of which a payload workload refuses those whose
second frame is no payload, at frame 1. Each time the subscriber is left behind the message, and its
next frame is the first one of the next message that it reads. -/
theorem streaming_agrees_with_buffered (w : Workload ω σ) (codec : Codec) (s : Subscriber)
    (skipped : List Message) (frame : Frame) (rest : List Frame) (after : List Message)
    (hcur : s.current = []) (hqueue : s.queue = skipped ++ (frame :: rest) :: after)
    (hskip : ∀ m ∈ skipped, s.skips m) (hacc : s.accepts (frame :: rest) = true) :
    ∃ more inbox intake behind,
      s.nextFrame = (.received (frame, more), inbox) ∧
      Intake.start codec frame more inbox = (intake, behind) ∧
      (w.verdict codec intake = .stop ↔
        ∃ address, Message.decode codec (frame :: rest) = .ok (.stop address)) ∧
      (∀ f, Message.decode codec (frame :: rest) = .error f →
        w.verdict codec intake = .failure f) ∧
      (∀ e, Message.decode codec (frame :: rest) = .ok (.message e) →
        w.verdict codec intake =
          match w.payloadFault? codec e.kind with
          | none => .dispatch e
          | some error => .failure ⟨1, error⟩) ∧
      behind = { s with current := [], queue := after } ∧
      ∀ skipped' frame' rest' after', after = skipped' ++ (frame' :: rest') :: after' →
        (∀ m ∈ skipped', s.skips m) → s.accepts (frame' :: rest') = true →
        behind.nextFrame =
          (.received (frame', !rest'.isEmpty), { s with current := rest', queue := after' }) := by
  have hnext := Subscriber.nextFrame_of_queue s skipped frame rest after hcur hqueue hskip hacc
  have hstart := Intake.start_eq_intake codec frame { s with current := rest, queue := after }
  refine ⟨_, _, _, _, hnext, hstart, ?_, ?_, ?_, rfl, ?_⟩
  · rw [← Intake.intake_eq_stopped_iff]
    rcases Message.intake codec (frame :: rest) with _ | e | ⟨f, token⟩
    · simp [Workload.verdict]
    · rw [Workload.verdict_complete]
      cases w.payloadFault? codec e.kind <;> simp
    · simp [Workload.verdict]
  · intro f hf
    obtain ⟨token, hi⟩ := (Intake.exists_intake_eq_failed_iff codec (frame :: rest) f).mpr hf
    rw [hi, Workload.verdict]
  · intro e he
    rw [(Intake.intake_eq_complete_iff codec (frame :: rest) e).mpr he]
    exact w.verdict_complete codec e
  · intro skipped' frame' rest' after' hafter hskip' hacc'
    exact Subscriber.nextFrame_of_queue { s with current := [], queue := after } skipped' frame'
      rest' after' rfl hafter hskip' hacc'

/-- A message for a payload workload over integers that is no integer fails at frame 1 although it
reads as an envelope, and the frame behind that one is not mistaken for the next message. -/
theorem streaming_agrees_with_buffered_payload :
    let w : Workload Unit Unit := .typed .integer fun _ _ _ _ => .done ()
    let s : Subscriber := ⟨"out", true, [asciiBytes "a"],
      [[asciiBytes "b"], [asciiBytes "a1", asciiBytes "x", [0]], [], [asciiBytes "a"]], []⟩
    ∃ more inbox intake behind,
      s.nextFrame = (.received (asciiBytes "a1", more), inbox) ∧
      Intake.start .standard (asciiBytes "a1") more inbox = (intake, behind) ∧
      w.verdict .standard intake = .failure ⟨1, .invalidJson⟩ ∧
      behind.nextFrame = (.received (asciiBytes "a", false), { s with queue := [] }) := by
  intro w s
  obtain ⟨more, inbox, intake, behind, hnext, hstart, -, -, hmessage, -, hbehind⟩ :=
    streaming_agrees_with_buffered w .standard s [[asciiBytes "b"]] (asciiBytes "a1")
      [asciiBytes "x", [0]] [[], [asciiBytes "a"]] rfl rfl (by decide) (by decide)
  refine ⟨more, inbox, intake, behind, hnext, hstart, ?_, ?_⟩
  · exact hmessage ⟨"a1", asciiBytes "x", some "x", none, [[0]]⟩ (by decide +kernel)
  · exact hbehind [[]] (asciiBytes "a") [] [] rfl (by decide) (by decide)

end Actor

end ActorBus
