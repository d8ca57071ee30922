import ActorBus.Proofs.Codec.Frames
import ActorBus.Proofs.Message.FirstError

/-!
# Tags and values alternate

Six fields of an assembly move together as the frames of a message are taken, and the number of
frames taken tells what they hold (`Assembly.Holds`). Behind the parameter count of an invocation
this is the alternation of tags and values: a tag is awaited exactly if none is pending, and two
frames for each argument, with one for a pending tag, make up for all the frames that have come.

So the end of a message can show only what its number of frames has it miss (`Missing`), and no
value is ever met without a tag.
-/

set_option autoImplicit false

namespace ActorBus

/-! ## What a single frame shows -/

/-- An error that a frame shows by itself, in whatever message it stands. -/
def CodecError.isOfFrame : CodecError → Bool
  | .invalidText _ | .invalidJson | .invalidBinary _ | .malformedParameterCount _ => true
  | _ => false

namespace Codec

variable {codec : Codec} {frame : Frame} {e : CodecError}

/-- A text that cannot be read is an error of its frame. -/
theorem isOfFrame_of_decodeText (h : codec.decodeText frame = .error e) : e.isOfFrame = true := by
  unfold decodeText at h
  cases hread : codec.encoding.decode frame with
  | ok text =>
    rw [hread] at h
    cases h
  | error fault =>
    rw [hread] at h
    cases h
    rfl

/-- A value that cannot be read is an error of its frame. -/
theorem isOfFrame_of_decode {t : ObjectType} (h : codec.decode t frame = .error e) :
    e.isOfFrame = true := by
  unfold decode at h
  split at h
  · split at h
    · cases h
    · cases h
      rfl
  · cases hread : Binary.decode t frame with
    | ok v =>
      rw [hread] at h
      cases h
    | error fault =>
      rw [hread] at h
      cases h
      rfl

end Codec

/-- What a value shows under its tag, it shows by itself. -/
theorem Argument.isOfFrame_of_ofTagged {codec : Codec} {tag : String} {value : Frame}
    {e : CodecError} (h : ofTagged codec tag value = .error e) : e.isOfFrame = true := by
  have hof (t : ObjectType) {make : t.Value → Argument}
      (h : (codec.decode t value).map make = .error e) : e.isOfFrame = true := by
    cases hread : codec.decode t value with
    | ok v =>
      rw [hread] at h
      cases h
    | error e' =>
      rw [hread] at h
      cases h
      exact Codec.isOfFrame_of_decode hread
  unfold ofTagged at h
  split at h
  · exact hof .boolean h
  split at h
  · exact hof .integer h
  split at h
  · exact hof .float h
  split at h
  · exact hof .text h
  split at h <;> cases h

/-! ## What has been read behind a number of frames -/

namespace Assembly

/-- What a frame is taken for, by its place and by what has been read before it. -/
inductive TakenFor (codec : Codec) (frame : Frame) (s : Assembly) : Nat → Prop where
  | address (heq : s.accept codec 0 frame = s.acceptAddress codec frame) : TakenFor codec frame s 0
  | kind (heq : s.accept codec 1 frame = s.acceptKind codec frame) : TakenFor codec frame s 1
  | body {index : Nat} (hindex : 2 ≤ index) (hs : s.isInvocation = false)
      (heq : s.accept codec index frame = ({ s with body := s.body ++ [frame] }, .ok .proceed)) :
      TakenFor codec frame s index
  | handle (hs : s.isInvocation = true)
      (heq : s.accept codec 2 frame = s.acceptHandle codec frame) : TakenFor codec frame s 2
  | count (hs : s.isInvocation = true)
      (heq : s.accept codec 3 frame = s.acceptCount codec frame) : TakenFor codec frame s 3
  | argument {index : Nat} (hindex : 4 ≤ index) (hs : s.isInvocation = true)
      (heq : s.accept codec index frame = s.acceptArgument codec frame) :
      TakenFor codec frame s index

/-- Every place in a message takes its frame for something. -/
theorem takenFor (codec : Codec) (frame : Frame) (s : Assembly) :
    ∀ index, TakenFor codec frame s index
  | 0 => .address rfl
  | 1 => .kind rfl
  | index + 2 => by
    cases hs : s.isInvocation with
    | false => exact .body (by omega) hs (accept_body codec _ frame s (by omega) hs)
    | true =>
      match index with
      | 0 => exact .handle hs (accept_handle codec frame s hs)
      | 1 => exact .count hs (accept_count codec frame s hs)
      | index + 2 =>
        exact .argument (by omega) hs (accept_argument codec _ frame s (by omega) hs)

/-- What the end of a message shows to be missing, by the number of its frames. -/
inductive Missing : Nat → CodecError → Prop where
  | address : Missing 0 (.truncated .address)
  | messageType : Missing 1 (.truncated .messageType)
  | parameterCount : Missing 3 (.truncated .parameterCount)
  | value (args : Nat) (tag : String) : Missing (4 + 2 * args + 1) (.danglingTypeTag tag)
  | arguments {declared received : Nat} (hne : declared ≠ received) :
      Missing (4 + 2 * received) (.parameterCountMismatch declared received)

/-- **What an assembly holds** behind a number of frames that have been taken. -/
structure Holds (count : Nat) (s : Assembly) : Prop where
  address : s.address.isSome ↔ 0 < count
  kind : s.kind.isSome ↔ 1 < count
  plain : count < 2 → s.isInvocation = false
  handle : s.handle.isSome ↔ s.isInvocation ∧ 2 < count
  declared : s.declared.isSome ↔ s.isInvocation ∧ 3 < count
  /-- A tag is awaited behind the count, unless one is pending. -/
  awaits : s.expectsTag ↔ s.isInvocation ∧ 3 < count ∧ s.pendingTag = none
  /-- The frames behind the count are those of the arguments and of the pending tag. -/
  args : 2 * s.args.length + s.pendingTag.toList.length = if s.isInvocation then count - 4 else 0

namespace Holds

variable {codec : Codec} {index : Nat} {frame : Frame} {s s' : Assembly} {e : CodecError}

/-- Nothing has been taken in yet. -/
theorem empty : Holds 0 .empty := by
  constructor <;> simp [Assembly.empty, isInvocation]

/-- Before the arguments no tag is pending. -/
theorem pendingTag_eq_none (h : s.Holds index) (hindex : index < 5) : s.pendingTag = none := by
  have hargs := h.args
  have hnone : s.pendingTag.toList.length = 0 := by
    split at hargs <;> omega
  cases htag : s.pendingTag with
  | none => rfl
  | some tag =>
    rw [htag] at hnone
    cases hnone

/-- The address comes first. -/
theorem of_acceptAddress (h : s.Holds 0)
    (haccept : s.acceptAddress codec frame = (s', .ok .proceed)) : s'.Holds 1 := by
  unfold acceptAddress at haccept
  split at haccept
  · cases haccept
    exact {
      address := by simp
      kind := h.kind.trans (by omega)
      plain := fun _ => h.plain (by omega)
      handle := h.handle.trans (and_congr_right' (by omega))
      declared := h.declared.trans (and_congr_right' (by omega))
      awaits := h.awaits.trans (and_congr_right' (and_congr_left' (by omega)))
      args := h.args }
  · cases haccept

/-- The frame that makes a message an invocation or not comes before all that is up to this. -/
theorem of_acceptKind (h : s.Holds 1)
    (haccept : s.acceptKind codec frame = (s', .ok .proceed)) : s'.Holds 2 := by
  unfold acceptKind at haccept
  obtain ⟨rfl, -⟩ := Prod.mk.inj haccept
  exact {
    address := h.address.trans (by omega)
    kind := by simp
    plain := fun hfew => absurd hfew (by omega)
    handle := h.handle.trans (by simp)
    declared := h.declared.trans (by simp)
    awaits := h.awaits.trans (by simp)
    args := h.args.trans (by simp) }

/-- A further frame of a plain message goes to its body. -/
theorem of_body (h : s.Holds index) (hindex : 2 ≤ index) (hs : s.isInvocation = false) :
    Holds (index + 1) { s with body := s.body ++ [frame] } := by
  have hno : ¬s.isInvocation = true := by
    rw [hs]
    exact Bool.false_ne_true
  have hargs := h.args
  rw [if_neg hno] at hargs
  exact {
    address := h.address.trans (by omega)
    kind := h.kind.trans (by omega)
    plain := fun _ => hs
    handle := h.handle.trans (and_congr_right fun hyes => absurd hyes hno)
    declared := h.declared.trans (and_congr_right fun hyes => absurd hyes hno)
    awaits := h.awaits.trans (and_congr_right fun hyes => absurd hyes hno)
    args := hargs.trans (if_neg hno).symm }

/-- The handle of an invocation comes third. -/
theorem of_acceptHandle (h : s.Holds 2) (hs : s.isInvocation = true)
    (haccept : s.acceptHandle codec frame = (s', .ok .proceed)) : s'.Holds 3 := by
  unfold acceptHandle at haccept
  split at haccept
  · cases haccept
    exact {
      address := h.address.trans (by omega)
      kind := h.kind.trans (by omega)
      plain := fun hfew => absurd hfew (by omega)
      handle := ⟨fun _ => ⟨hs, by omega⟩, fun _ => rfl⟩
      declared := h.declared.trans (and_congr_right' (by omega))
      awaits := h.awaits.trans (and_congr_right' (and_congr_left' (by omega)))
      args := h.args }
  · cases haccept

/-- The number of arguments comes fourth. -/
theorem of_acceptCount (h : s.Holds 3) (hs : s.isInvocation = true)
    (haccept : s.acceptCount codec frame = (s', .ok .proceed)) : s'.Holds 4 := by
  unfold acceptCount at haccept
  split at haccept
  · cases haccept
  split at haccept
  · cases haccept
  · cases haccept
    exact {
      address := h.address.trans (by omega)
      kind := h.kind.trans (by omega)
      plain := fun hfew => absurd hfew (by omega)
      handle := h.handle.trans (and_congr_right' (by omega))
      declared := ⟨fun _ => ⟨hs, by omega⟩, fun _ => rfl⟩
      awaits := ⟨fun _ => ⟨hs, by omega, h.pendingTag_eq_none (by omega)⟩, fun _ => rfl⟩
      args := h.args }

/-- Behind the count a frame has to do with the arguments and their tags only. -/
theorem onward (h : s.Holds index) (hindex : 4 ≤ index) (hs : s.isInvocation = true)
    {expectsTag : Bool} {pendingTag : Option String} {args : List Argument}
    (hawaits : expectsTag ↔ pendingTag = none)
    (hargs : 2 * args.length + pendingTag.toList.length = index - 3) :
    Holds (index + 1) { s with expectsTag, pendingTag, args } where
  address := h.address.trans (by omega)
  kind := h.kind.trans (by omega)
  plain hfew := by omega
  handle := h.handle.trans (and_congr_right' (by omega))
  declared := h.declared.trans (and_congr_right' (by omega))
  awaits := hawaits.trans ⟨fun hnone => ⟨hs, by omega, hnone⟩, fun hnone => hnone.2.2⟩
  args := by
    have hsame : isInvocation { s with expectsTag, pendingTag, args } = true := hs
    have hcount : index - 3 = index + 1 - 4 := by omega
    rw [hsame, if_pos rfl]
    exact hargs.trans hcount

/-- Tags and values of the arguments follow in turn. -/
theorem of_acceptArgument (h : s.Holds index) (hindex : 4 ≤ index) (hs : s.isInvocation = true)
    (haccept : s.acceptArgument codec frame = (s', .ok .proceed)) : s'.Holds (index + 1) := by
  have hargs := h.args
  rw [if_pos hs] at hargs
  unfold acceptArgument at haccept
  split at haccept
  · next hexpects =>
    have hnone : s.pendingTag = none := (h.awaits.mp hexpects).2.2
    rw [hnone, Option.toList_none, List.length_nil] at hargs
    split at haccept
    · next tag _ =>
      cases haccept
      refine h.onward hindex hs (by simp) ?_
      rw [Option.toList_some, List.length_singleton]
      omega
    · cases haccept
  · split at haccept
    · cases haccept
    · next tag htag =>
      rw [htag, Option.toList_some, List.length_singleton] at hargs
      simp only at haccept
      split at haccept
      · cases haccept
        refine h.onward hindex hs (by simp) ?_
        rw [List.length_append, List.length_singleton, Option.toList_none, List.length_nil]
        omega
      · cases haccept

/-- **One frame more.** -/
theorem of_accept (h : s.Holds index) (haccept : s.accept codec index frame = (s', .ok .proceed)) :
    s'.Holds (index + 1) := by
  cases takenFor codec frame s index with
  | address heq => exact h.of_acceptAddress (heq ▸ haccept)
  | kind heq => exact h.of_acceptKind (heq ▸ haccept)
  | body hindex hs heq =>
    rw [heq] at haccept
    cases haccept
    exact h.of_body hindex hs
  | handle hs heq => exact h.of_acceptHandle hs (heq ▸ haccept)
  | count hs heq => exact h.of_acceptCount hs (heq ▸ haccept)
  | argument hindex hs heq => exact h.of_acceptArgument hindex hs (heq ▸ haccept)

/-- **Any frames more.** -/
theorem of_proceeds {frames : List Frame} (hframes : Proceeds codec index s frames s')
    (h : s.Holds index) : s'.Holds (index + frames.length) := by
  induction hframes with
  | nil => exact h
  | @cons index _ _ _ _ rest hframe _ ih =>
    have hrest := ih (h.of_accept hframe)
    rwa [Nat.add_right_comm, Nat.add_assoc] at hrest

/-- A frame that is refused shows the error by itself: no value is met without a tag. -/
theorem isOfFrame_of_accept (h : s.Holds index)
    (haccept : s.accept codec index frame = (s', .error e)) : e.isOfFrame = true := by
  cases takenFor codec frame s index with
  | address heq =>
    rw [heq, acceptAddress] at haccept
    split at haccept
    · cases haccept
    · next hread =>
      cases haccept
      exact Codec.isOfFrame_of_decodeText hread
  | kind heq =>
    rw [heq, acceptKind] at haccept
    cases haccept
  | body _ _ heq =>
    rw [heq] at haccept
    cases haccept
  | handle _ heq =>
    rw [heq, acceptHandle] at haccept
    split at haccept
    · cases haccept
    · next hread =>
      cases haccept
      exact Codec.isOfFrame_of_decode hread
  | count _ heq =>
    rw [heq, acceptCount] at haccept
    split at haccept
    · next hread =>
      cases haccept
      exact Codec.isOfFrame_of_decodeText hread
    · split at haccept
      · cases haccept
        rfl
      · cases haccept
  | argument hindex hs heq =>
    rw [heq, acceptArgument] at haccept
    split at haccept
    · split at haccept
      · cases haccept
      · next hread =>
        cases haccept
        exact Codec.isOfFrame_of_decodeText hread
    · next hexpects =>
      split at haccept
      · next hnone => exact absurd (h.awaits.mpr ⟨hs, by omega, hnone⟩) hexpects
      · simp only at haccept
        split at haccept
        · cases haccept
        · next hread =>
          cases haccept
          exact Argument.isOfFrame_of_ofTagged hread

/-- The invocation of a message whose end comes behind its handle misses its count, the value of
a tag or some arguments. -/
theorem missing_of_finishInvocation (h : s.Holds index) (hs : s.isInvocation = true)
    {handle : MethodHandle} (hhandle : s.handle = some handle)
    (hfinish : s.finishInvocation handle = .error e) : Missing index e := by
  have hbehind : 2 < index := (h.handle.mp (by rw [hhandle]; rfl)).2
  have hargs := h.args
  rw [if_pos hs] at hargs
  unfold finishInvocation at hfinish
  split at hfinish
  · next hdeclared =>
    cases hfinish
    have hearly : ¬3 < index := by
      intro hlate
      have hthere := h.declared.mpr ⟨hs, hlate⟩
      rw [hdeclared] at hthere
      cases hthere
    obtain rfl : index = 3 := by omega
    exact .parameterCount
  · next declared hdeclared =>
    have hlate : 3 < index := (h.declared.mp (by rw [hdeclared]; rfl)).2
    split at hfinish
    · next tag htag =>
      cases hfinish
      rw [htag, Option.toList_some, List.length_singleton] at hargs
      obtain rfl : index = 4 + 2 * s.args.length + 1 := by omega
      exact .value s.args.length tag
    · next htag =>
      rw [htag, Option.toList_none, List.length_nil] at hargs
      split at hfinish
      · next hne =>
        cases hfinish
        obtain rfl : index = 4 + 2 * s.args.length := by omega
        exact .arguments hne
      · cases hfinish

/-- **The end of a message** shows nothing but what its number of frames has it miss. -/
theorem missing_of_finish (h : s.Holds index) (hfinish : s.finish = .error e) :
    Missing index e := by
  unfold finish at hfinish
  cases haddress : s.address with
  | none =>
    rw [haddress] at hfinish
    cases hfinish
    have hnone : ¬0 < index := by simpa [haddress] using h.address
    obtain rfl : index = 0 := by omega
    exact .address
  | some address =>
    have hsome : 0 < index := h.address.mp (by rw [haddress]; rfl)
    rw [haddress] at hfinish
    cases hkind : s.kind with
    | none =>
      rw [hkind] at hfinish
      cases hfinish
      have hnone : ¬1 < index := by simpa [hkind] using h.kind
      obtain rfl : index = 1 := by omega
      exact .messageType
    | some kind =>
      rw [hkind] at hfinish
      cases hs : s.isInvocation with
      | false =>
        rw [hs] at hfinish
        cases hfinish
      | true =>
        rw [hs] at hfinish
        cases hhandle : s.handle with
        | none =>
          rw [hhandle] at hfinish
          cases hfinish
        | some handle =>
          rw [hhandle] at hfinish
          cases hinvocation : s.finishInvocation handle with
          | ok call =>
            simp only [hinvocation] at hfinish
            cases hfinish
          | error e' =>
            simp only [hinvocation] at hfinish
            cases hfinish
            exact h.missing_of_finishInvocation hs hhandle hinvocation

end Holds

/-- Behind the second frame the message type stays. -/
theorem messageType_of_proceeds {codec : Codec} {index : Nat} {frames : List Frame}
    {s s' : Assembly} (hframes : Proceeds codec index s frames s') (hindex : 2 ≤ index) :
    s'.messageType = s.messageType := by
  induction hframes with
  | nil => rfl
  | @cons index s s₁ _ frame _ hframe _ ih =>
    rw [ih (by omega)]
    have hs₁ : s₁ = (s.accept codec index frame).1 := by rw [hframe]
    rw [hs₁]
    cases takenFor codec frame s index with
    | address | kind => omega
    | body _ _ heq => rw [heq]
    | handle _ heq =>
      rw [heq, acceptHandle]
      split <;> rfl
    | count _ heq =>
      rw [heq, acceptCount]
      split
      · rfl
      · split <;> rfl
    | argument _ _ heq =>
      rw [heq, acceptArgument]
      split
      · split <;> rfl
      · split
        · rfl
        · simp only
          split <;> rfl

/-- The second frame of a message makes it an invocation or not. -/
theorem isInvocation_of_proceeds {codec : Codec} {addressFrame kind : Frame} {rest : List Frame}
    {s : Assembly} (h : Proceeds codec 0 .empty (addressFrame :: kind :: rest) s) :
    s.isInvocation = true ↔ codec.decodeText kind = .ok Message.invokeType := by
  cases h with
  | cons haddress hrest =>
    cases hrest with
    | cons hkind hrest =>
      rw [isInvocation, messageType_of_proceeds hrest (by omega)]
      change acceptKind codec kind _ = _ at hkind
      unfold acceptKind at hkind
      obtain ⟨rfl, -⟩ := Prod.mk.inj hkind
      cases codec.decodeText kind with
      | error e => simp [Except.toOption]
      | ok text => simp [Except.toOption]

end Assembly

namespace Message

/-- A failed reading shows an error of one frame, or what the number of frames has the message
miss. -/
theorem isOfFrame_or_missing {codec : Codec} {frames : List Frame} {f : DecodeFailure}
    (h : decode codec frames = .error f) :
    f.error.isOfFrame = true ∨ Assembly.Missing frames.length f.error := by
  cases (decodeFrom_eq_error_iff frames f).mp h with
  | frame hfront hframe =>
    exact .inl ((Assembly.Holds.empty.of_proceeds hfront).isOfFrame_of_accept hframe)
  | finish hframes hfinish =>
    have hmissing := (Assembly.Holds.empty.of_proceeds hframes).missing_of_finish hfinish
    rw [Nat.zero_add] at hmissing
    exact .inr hmissing

/-- **Tags and values alternate**, in every row of frames that is taken from the start of an
invocation: behind the count a tag is awaited exactly if none is pending, and the arguments have
taken two frames each, with one for a pending tag. So a reading never misses a type tag or a method
handle. It misses the address of the empty message only, the message type of one frame, and the
parameter count of three frames, and a tag is left without its value only where the number of frames
is odd and at least five. -/
theorem tags_and_values_alternate (codec : Codec) :
    (∀ frames kind s, Assembly.Proceeds codec 0 .empty frames s → frames[1]? = some kind →
      codec.decodeText kind = .ok invokeType → 4 ≤ frames.length →
      (s.expectsTag = true ↔ s.pendingTag = none) ∧
      2 * s.args.length + (if s.pendingTag.isSome then 1 else 0) = frames.length - 4) ∧
    ∀ frames f, decode codec frames = .error f →
      f.error ≠ .truncated .typeTag ∧ f.error ≠ .truncated .methodHandle ∧
      (f.error = .truncated .address → frames = []) ∧
      (f.error = .truncated .messageType → frames.length = 1) ∧
      (f.error = .truncated .parameterCount → frames.length = 3) ∧
      ∀ tag, f.error = .danglingTypeTag tag → frames.length % 2 = 1 ∧ 5 ≤ frames.length := by
  constructor
  · intro frames kind s hframes hkind hinvoke hlength
    match frames with
    | addressFrame :: _ :: rest =>
      cases hkind
      have hs := (Assembly.isInvocation_of_proceeds hframes).mpr hinvoke
      have h := Assembly.Holds.empty.of_proceeds hframes
      rw [Nat.zero_add] at h
      constructor
      · rw [h.awaits]
        exact ⟨fun hawaits => hawaits.2.2, fun hnone => ⟨hs, by omega, hnone⟩⟩
      · have hargs := h.args
        rw [if_pos hs] at hargs
        rw [← hargs]
        cases s.pendingTag <;> rfl
  · intro frames f h
    cases isOfFrame_or_missing h with
    | inl hframe =>
      have hother (e : CodecError) (he : e.isOfFrame = false) : f.error ≠ e := by
        rintro rfl
        rw [hframe] at he
        cases he
      exact ⟨hother _ rfl, hother _ rfl, fun h => absurd h (hother _ rfl),
        fun h => absurd h (hother _ rfl), fun h => absurd h (hother _ rfl),
        fun tag h => absurd h (hother _ rfl)⟩
    | inr hmissing =>
      obtain ⟨index, e⟩ := f
      generalize hlength : frames.length = count at hmissing ⊢
      cases hmissing with
      | address =>
        exact ⟨nofun, nofun, fun _ => List.eq_nil_of_length_eq_zero hlength, nofun, nofun, nofun⟩
      | messageType => exact ⟨nofun, nofun, nofun, fun _ => rfl, nofun, nofun⟩
      | parameterCount => exact ⟨nofun, nofun, nofun, nofun, fun _ => rfl, nofun⟩
      | value args tag => exact ⟨nofun, nofun, nofun, nofun, nofun, fun _ _ => by omega⟩
      | arguments hne => exact ⟨nofun, nofun, nofun, nofun, nofun, nofun⟩

/-- A call of two arguments without its last frame: one argument and a tag. Cut off behind its
handle it misses the count. -/
theorem tags_and_values_alternate_cut :
    let codec : Codec := ⟨.bincode, .utf8⟩
    let frames := (invoke codec "a" ⟨"T", "m"⟩ [.boolean true, .boolean false]).dropLast
    (∃ s, Assembly.Proceeds codec 0 .empty frames s ∧ s.pendingTag = some "bool" ∧
      (s.expectsTag = true ↔ s.pendingTag = none) ∧
      2 * s.args.length + (if s.pendingTag.isSome then 1 else 0) = 7 - 4) ∧
    decode codec frames = .error ⟨7, .danglingTypeTag "bool"⟩ ∧ (7 % 2 = 1 ∧ 5 ≤ 7) ∧
    decode codec (frames.take 3) = .error ⟨3, .truncated .parameterCount⟩ ∧
      (frames.take 3).length = 3 := by
  intro codec frames
  have hdangling : decode codec frames = .error ⟨7, .danglingTypeTag "bool"⟩ := by rfl
  have hcut : decode codec (frames.take 3) = .error ⟨3, .truncated .parameterCount⟩ := by rfl
  obtain ⟨halternate, hmissing⟩ := tags_and_values_alternate codec
  obtain ⟨-, -, -, -, -, htag⟩ := hmissing frames _ hdangling
  obtain ⟨-, -, -, -, hcount, -⟩ := hmissing (frames.take 3) _ hcut
  refine ⟨?_, hdangling, htag "bool" rfl, hcut, hcount rfl⟩
  have hframes : Assembly.Proceeds codec 0 .empty frames _ :=
    .cons rfl (.cons rfl (.cons rfl (.cons rfl (.cons rfl (.cons rfl (.cons rfl .nil))))))
  have hinvoke := codec.decodeText_encodeText invokeType
  exact ⟨_, hframes, rfl, halternate frames _ _ hframes rfl hinvoke (by decide)⟩

end Message

end ActorBus
