import ActorBus.Callback.Caller
import ActorBus.Proofs.Actor.Intake
import ActorBus.Proofs.Codec.Formats
import ActorBus.Proofs.Message.RoundTrip
import Mathlib.Data.List.Forall2

/-!
# Taking in a call

A call is an invocation whose last argument is its token. An actor with the codec of the call reads
argument after argument, each under its tag (`Argument.reread`), and fails at the first that does
not come back. The token always does (`reread_ofToken`), so a call that is taken in ends with it.

Where the intake fails, the caller is looked for among the arguments read so far, and the token is
behind them: `intake_call_failed_iff` says whom the intake then names. In another codec than that of
the call it names nobody (`intake_call_of_codec_ne`).
-/

set_option autoImplicit false

namespace ActorBus

namespace Argument

/-- What comes back of an argument whose value is read under its tag. -/
def reread (codec : Codec) (a : Argument) : Except CodecError Argument :=
  ofTagged codec a.typeTag (a.frames codec).2

/-- What comes back of some arguments, one by one. -/
def Reread (codec : Codec) : List Argument → List Argument → Prop :=
  List.Forall₂ fun a back => a.reread codec = .ok back

/-- A token comes back from its frames in every codec. -/
theorem reread_ofToken (codec : Codec) (token : Nat) :
    (ofToken token).reread codec = .ok (ofToken token) :=
  ofTagged_frames codec (ofToken token) trivial

/-- A token of 63 bits is told from the argument that carries it. -/
theorem token?_append_ofToken (args : List Argument) {token : Nat} (h : token < 2 ^ 63) :
    token? (args ++ [ofToken token]) = some token := by
  have hint : (Int64.ofNat token).toInt = token := Int64.toInt_ofNat_of_lt h
  rw [token?, List.getLast?_concat, ofToken]
  simp only [hint, Int.natCast_nonneg, if_true, Int.toNat_natCast]

/-- Either all arguments come back from their frames, or there is a first one that does not. -/
theorem exists_reread_or (codec : Codec) (args : List Argument) :
    (∃ back, Reread codec args back) ∨
      ∃ before x after back e, args = before ++ x :: after ∧ Reread codec before back ∧
        x.reread codec = .error e := by
  induction args with
  | nil => exact .inl ⟨[], .nil⟩
  | cons a args ih =>
    cases ha : a.reread codec with
    | error e => exact .inr ⟨[], a, args, [], e, rfl, .nil, ha⟩
    | ok a' =>
      rcases ih with ⟨back, hback⟩ | ⟨before, x, after, back, e, rfl, hback, hx⟩
      · exact .inl ⟨a' :: back, .cons ha hback⟩
      · exact .inr ⟨a :: before, x, after, a' :: back, e, rfl, .cons ha hback, hx⟩

/-- What comes back of some arguments ends with what comes back of the last one. -/
theorem Reread.concat {codec : Codec} {args back : List Argument} {x x' : Argument}
    (h : Reread codec (args ++ [x]) back) (hx : x.reread codec = .ok x') :
    ∃ init, back = init ++ [x'] := by
  induction args generalizing back with
  | nil =>
    cases h with
    | cons hfirst hrest =>
      cases hrest
      rw [hx] at hfirst
      cases hfirst
      exact ⟨[], rfl⟩
  | cons a args ih =>
    cases h with
    | cons hfirst hrest =>
      obtain ⟨init, rfl⟩ := ih hrest
      exact ⟨_ :: init, rfl⟩

end Argument

/-- Arguments that are read off their own frames have come back. -/
theorem ArgumentFrames.reread {codec : Codec} {args back : List Argument}
    (h : ArgumentFrames codec (args.flatMap fun a => [(a.frames codec).1, (a.frames codec).2])
      back) : Argument.Reread codec args back := by
  induction args generalizing back with
  | nil =>
    cases h
    exact .nil
  | cons a args ih =>
    rw [List.flatMap_cons] at h
    cases h with
    | cons htag hvalue hrest =>
      have hown : codec.decodeText (a.frames codec).1 = .ok a.typeTag :=
        codec.decodeText_encodeText a.typeTag
      rw [hown] at htag
      cases htag
      exact .cons hvalue (ih hrest)

namespace Message

/-- An intake goes on behind a frame that is accepted. -/
theorem intakeFrom_cons_of_proceed (codec : Codec) (index : Nat) (s s' : Assembly) (frame : Frame)
    (rest : List Frame) (h : s.accept codec index frame = (s', .ok .proceed)) :
    intakeFrom codec index s (frame :: rest) = intakeFrom codec (index + 1) s' rest := by
  rw [intakeFrom, h]

/-- An intake ends at a frame that is refused. -/
theorem intakeFrom_cons_of_error (codec : Codec) (index : Nat) (s s' : Assembly) (frame : Frame)
    (rest : List Frame) (e : CodecError) (h : s.accept codec index frame = (s', .error e)) :
    intakeFrom codec index s (frame :: rest) = .failed ⟨index, e⟩ s'.token? := by
  rw [intakeFrom, h]

/-- The two first frames decide whether the rest is taken. -/
theorem intake_cons_cons (codec : Codec) (addressFrame kind : Frame) (rest : List Frame) :
    intake codec (addressFrame :: kind :: rest) =
      match codec.decodeText addressFrame with
      | .error e => .failed ⟨0, e⟩ none
      | .ok address =>
        if (codec.decodeText kind).toOption.any isStop then .stopped
        else intakeFrom codec 2 (.headed codec address kind) rest := by
  rw [intake, intakeFrom, Assembly.accept, if_pos rfl, Assembly.acceptAddress]
  cases codec.decodeText addressFrame with
  | error e => rfl
  | ok address =>
    simp only
    rw [intakeFrom, Assembly.accept, if_neg (by omega), if_pos rfl, Assembly.acceptKind]
    cases (codec.decodeText kind).toOption.any isStop <;> rfl

/-- The intake of an invocation whose texts are in the actor's encoding comes to the handle. -/
theorem intake_invoke_of_encoding_eq {codec own : Codec} (hencoding : own.encoding = codec.encoding)
    (address : String) (handle : MethodHandle) (args : List Argument) :
    intake own (invoke codec address handle args) =
      intakeFrom own 2 (.headed own address (codec.encodeText invokeType))
        (codec.encode .handle handle :: codec.encodeText (countText args.length) ::
          args.flatMap fun a => [(a.frames codec).1, (a.frames codec).2]) := by
  have htext (s : String) : own.decodeText (codec.encodeText s) = .ok s := by
    have hback := own.decodeText_encodeText s
    rw [Codec.encodeText, hencoding] at hback
    exact hback
  have hplain : isStop invokeType = false := by decide
  rw [invoke]
  simp only [List.cons_append, List.nil_append]
  rw [intake_cons_cons, htext, htext]
  simp only [Except.toOption, Option.any_some, hplain, Bool.false_eq_true, if_false]

section

variable (codec : Codec) (address : String) (kind : Frame) (handle : MethodHandle)

/-- Behind the count the frames of an argument are taken, or its value is refused; then the caller
is looked for among the arguments before it. -/
theorem intakeFrom_argument (declared index : Nat) (hindex : 4 ≤ index) (read : List Argument)
    (a : Argument) (frames : List Frame) :
    intakeFrom codec index (.counted address kind handle declared read)
        ((a.frames codec).1 :: (a.frames codec).2 :: frames) =
      match a.reread codec with
      | .ok a' =>
        intakeFrom codec (index + 2) (.counted address kind handle declared (read ++ [a'])) frames
      | .error e => .failed ⟨index + 1, e⟩ (Argument.token? read) := by
  have htag := Assembly.accept_counted codec index (a.frames codec).1 address kind handle declared
    read hindex
  have hown : codec.decodeText (a.frames codec).1 = .ok a.typeTag :=
    codec.decodeText_encodeText a.typeTag
  rw [hown] at htag
  have hvalue := Assembly.accept_value codec (index + 1) (a.frames codec).2 address kind handle
    declared read a.typeTag (by omega)
  rw [intakeFrom_cons_of_proceed codec index _ _ _ _ htag, Argument.reread]
  cases ha : Argument.ofTagged codec a.typeTag (a.frames codec).2 with
  | ok a' =>
    rw [ha] at hvalue
    exact intakeFrom_cons_of_proceed codec (index + 1) _ _ _ _ hvalue
  | error e =>
    rw [ha] at hvalue
    exact intakeFrom_cons_of_error codec (index + 1) _ _ _ _ e hvalue

/-- An intake goes through the frames of arguments that come back, and has read them behind. -/
theorem intakeFrom_reread (declared index : Nat) (hindex : 4 ≤ index) (read : List Argument)
    {args back : List Argument} (h : Argument.Reread codec args back) (frames : List Frame) :
    intakeFrom codec index (.counted address kind handle declared read)
        ((args.flatMap fun a => [(a.frames codec).1, (a.frames codec).2]) ++ frames) =
      intakeFrom codec (index + 2 * args.length)
        (.counted address kind handle declared (read ++ back)) frames := by
  -- each argument moves the place on by two frames
  induction h generalizing index read with
  | nil => simp
  | cons hfirst hrest ih =>
    rename_i a a' args back
    have hlater := ih (index + 2) (by omega) (read ++ [a'])
    rw [List.append_assoc, List.singleton_append] at hlater
    have hplace : index + 2 + 2 * args.length = index + 2 * (a :: args).length := by
      rw [List.length_cons]
      omega
    rw [List.flatMap_cons, List.append_assoc, ← hplace, ← hlater]
    refine (intakeFrom_argument codec address kind handle declared index hindex read a _).trans ?_
    rw [hfirst]
    rfl

/-- The first four frames of an invocation are taken. -/
theorem intake_invoke (args : List Argument) (hhandle : codec.Carries .handle handle)
    (hcount : args.length < UInt64.size) :
    intake codec (invoke codec address handle args) =
      intakeFrom codec 4
        (.counted address (codec.encodeText invokeType) handle args.length [])
        (args.flatMap fun a => [(a.frames codec).1, (a.frames codec).2]) := by
  have hnumber := (parseCountText_eq_some_iff _ _).mpr (countText_countText args.length hcount)
  have hkind := codec.decodeText_encodeText invokeType
  have hs := (Assembly.isInvocation_headed codec address (codec.encodeText invokeType)).mpr hkind
  have hhandled := Assembly.accept_handle codec (codec.encode .handle handle) _ hs
  rw [Assembly.acceptHandle, codec.decode_encode .handle handle hhandle] at hhandled
  have hcounted := Assembly.accept_count codec (codec.encodeText (countText args.length))
    { Assembly.headed codec address (codec.encodeText invokeType) with handle := some handle } hs
  rw [Assembly.acceptCount, codec.decodeText_encodeText] at hcounted
  simp only [hnumber] at hcounted
  -- what has been read is now what the arguments are read into
  have hstate : ({ Assembly.headed codec address (codec.encodeText invokeType) with
      handle := some handle, declared := some args.length, expectsTag := true } : Assembly) =
      .counted address (codec.encodeText invokeType) handle args.length [] := by
    simp only [Assembly.headed, Assembly.counted, hkind, Except.toOption]
  rw [intake_invoke_of_encoding_eq rfl, intakeFrom_cons_of_proceed codec 2 _ _ _ _ hhandled,
    intakeFrom_cons_of_proceed codec 3 _ _ _ _ hcounted, hstate]

/-- An invocation is taken in as a whole if its handle and all its arguments come back. -/
theorem intake_invoke_of_reread {args back : List Argument} (hhandle : codec.Carries .handle handle)
    (hcount : args.length < UInt64.size) (h : Argument.Reread codec args back) :
    intake codec (invoke codec address handle args) =
      .complete
        ⟨address, codec.encodeText invokeType, some invokeType, some ⟨handle, back⟩, []⟩ := by
  have hall := intakeFrom_reread codec address (codec.encodeText invokeType) handle args.length 4
    (Nat.le_refl 4) [] h []
  rw [List.append_nil, List.nil_append] at hall
  rw [intake_invoke codec address handle args hhandle hcount, hall, intakeFrom,
    Assembly.finish_counted, if_pos h.length_eq]

/-- The intake of an invocation fails at the first argument that does not come back, and names the
caller that the arguments before it seem to end with. -/
theorem intake_invoke_of_error {before after back : List Argument} {x : Argument} {e : CodecError}
    (hhandle : codec.Carries .handle handle)
    (hcount : (before ++ x :: after).length < UInt64.size)
    (hbefore : Argument.Reread codec before back) (hx : x.reread codec = .error e) :
    intake codec (invoke codec address handle (before ++ x :: after)) =
      .failed ⟨5 + 2 * before.length, e⟩ (Argument.token? back) := by
  rw [intake_invoke codec address handle _ hhandle hcount, List.flatMap_append,
    intakeFrom_reread codec address _ handle _ 4 (Nat.le_refl 4) [] hbefore, List.flatMap_cons]
  refine (intakeFrom_argument codec address _ handle _ _ (by omega) _ x _).trans ?_
  rw [hx]
  simp only [List.nil_append]
  congr 2
  omega

end

/-- **Whom a failed intake names.** The intake of a call fails and names a token exactly when some
argument does not come back, and those before it come back ending with the token. -/
theorem intake_call_failed_iff (codec : Codec) (address : String) (handle : MethodHandle)
    (args : List Argument) (token u : Nat) (hhandle : codec.Carries .handle handle)
    (hcount : args.length + 1 < UInt64.size) :
    (∃ f, intake codec (call codec address handle args token) = .failed f (some u)) ↔
      ∃ before x after back e, args = before ++ x :: after ∧ Argument.Reread codec before back ∧
        x.reread codec = .error e ∧ Argument.token? back = some u := by
  have hlength : (args ++ [Argument.ofToken token]).length < UInt64.size := by
    rw [List.length_append, List.length_singleton]
    exact hcount
  constructor
  · rintro ⟨f, hf⟩
    rcases Argument.exists_reread_or codec args with ⟨back, hback⟩ |
        ⟨before, x, after, back, e, rfl, hback, hx⟩
    · -- the token comes back with the others, so this call is taken in
      have hall : Argument.Reread codec (args ++ [Argument.ofToken token])
          (back ++ [Argument.ofToken token]) :=
        List.rel_append hback (.cons (Argument.reread_ofToken codec token) .nil)
      rw [call, intake_invoke_of_reread codec address handle hhandle hlength hall] at hf
      cases hf
    · rw [List.append_assoc, List.cons_append] at hlength
      rw [call, List.append_assoc, List.cons_append,
        intake_invoke_of_error codec address handle hhandle hlength hback hx] at hf
      refine ⟨before, x, after, back, e, rfl, hback, hx, ?_⟩
      exact (Intake.failed.inj hf).2
  · rintro ⟨before, x, after, back, e, rfl, hback, hx, hu⟩
    rw [List.append_assoc, List.cons_append] at hlength
    refine ⟨⟨5 + 2 * before.length, e⟩, ?_⟩
    rw [call, List.append_assoc, List.cons_append,
      intake_invoke_of_error codec address handle hhandle hlength hback hx, hu]

/-- A call that reads as an envelope reads as an invocation that ends with its token. -/
theorem exists_args_of_decode_call (codec : Codec) (address : String) (handle : MethodHandle)
    (args : List Argument) (token : Nat) {e : Envelope}
    (h : decode codec (call codec address handle args token) = .ok (.message e)) :
    ∃ handle' init, e.invocation = some ⟨handle', init ++ [Argument.ofToken token]⟩ := by
  have hreads := (decode_eq_ok_iff codec _ _).mp h
  rw [call, invoke] at hreads
  cases hreads with
  | invocation haddress hkind hhandle htext hcount hargs =>
    obtain ⟨init, rfl⟩ := hargs.reread.concat (Argument.reread_ofToken codec token)
    exact ⟨_, init, rfl⟩
  | data haddress hkind hdata =>
    rcases hdata with hno | hno
    · exact absurd (codec.decodeText_encodeText invokeType) hno
    · cases hno

/-! ## Calls in another codec -/

/-- A call whose texts are in the actor's encoding and whose objects are not in its format is
refused at the handle. -/
theorem intake_call_of_format_ne {codec own : Codec} (hencoding : own.encoding = codec.encoding)
    (hformat : own.format ≠ codec.format) (address : String) {handle : MethodHandle}
    (hlength : (codec.encode .handle handle).length < 2 ^ 56) (args : List Argument)
    (token : Nat) :
    ∃ e, intake own (call codec address handle args token) = .failed ⟨2, e⟩ none := by
  obtain ⟨e, he⟩ := Codec.exists_decode_handle_eq_error hformat hlength
  have hkind : own.decodeText (codec.encodeText invokeType) = .ok invokeType := by
    rw [Codec.encodeText, ← hencoding]
    exact own.decodeText_encodeText invokeType
  have hs := (Assembly.isInvocation_headed own address (codec.encodeText invokeType)).mpr hkind
  have hrefused := Assembly.accept_handle own (codec.encode .handle handle) _ hs
  rw [Assembly.acceptHandle, he] at hrefused
  refine ⟨e, ?_⟩
  rw [call, intake_invoke_of_encoding_eq hencoding,
    intakeFrom_cons_of_error own 2 _ _ _ _ e hrefused, Assembly.token?, hs, if_pos rfl]
  rfl

/-- In the other text encoding `invoke` is neither `invoke` nor a stop order. -/
theorem decodeText_invoke_of_encoding_ne {codec own : Codec}
    (hencoding : own.encoding ≠ codec.encoding) :
    own.decodeText (codec.encodeText invokeType) ≠ .ok invokeType ∧
      (own.decodeText (codec.encodeText invokeType)).toOption.any isStop = false := by
  rw [Codec.decodeText, Codec.encodeText]
  cases hown : own.encoding with
  | utf8 =>
    cases hcodec : codec.encoding with
    | utf8 => exact absurd (hown.trans hcodec.symm) hencoding
    | utf16le => decide +kernel
  | utf16le =>
    cases hcodec : codec.encoding with
    | utf8 => decide +kernel
    | utf16le => exact absurd (hown.trans hcodec.symm) hencoding

/-- **A call in another codec names nobody**: it cannot be read, and no token is found in what was
read of it, or it is read as plain data. -/
theorem intake_call_of_codec_ne {codec own : Codec} (hne : own ≠ codec) (address : String)
    {handle : MethodHandle} (hlength : (codec.encode .handle handle).length < 2 ^ 56)
    (args : List Argument) (token : Nat) :
    (∃ f, intake own (call codec address handle args token) = .failed f none) ∨
      ∃ e, intake own (call codec address handle args token) = .complete e ∧
        e.invocation = none := by
  by_cases hencoding : own.encoding = codec.encoding
  · have hformat : own.format ≠ codec.format := by
      intro hformat
      exact hne (Codec.ext hformat hencoding)
    obtain ⟨e, he⟩ := intake_call_of_format_ne hencoding hformat address hlength args token
    exact .inl ⟨_, he⟩
  · obtain ⟨hkind, hstop⟩ := decodeText_invoke_of_encoding_ne hencoding
    rw [call, invoke]
    simp only [List.cons_append, List.nil_append]
    rw [intake_cons_cons]
    cases own.decodeText (codec.encodeText address) with
    | error e => exact .inl ⟨_, rfl⟩
    | ok text =>
      right
      simp only [hstop, Bool.false_eq_true, if_false]
      generalize codec.encode .handle handle :: codec.encodeText _ :: _ = behind
      have hread := decodeFrom_headed_of_data own text _ behind (.inl hkind)
      have hagrees := Intake.intakeFrom_agrees own 2
        (.headed own text (codec.encodeText invokeType)) behind
      rw [hread] at hagrees
      cases htaken : intakeFrom own 2 (.headed own text (codec.encodeText invokeType)) behind with
      | stopped =>
        rw [htaken] at hagrees
        exact hagrees.elim
      | failed f named =>
        rw [htaken] at hagrees
        exact hagrees.elim
      | complete e =>
        rw [htaken] at hagrees
        refine ⟨e, rfl, ?_⟩
        rw [show e = _ from hagrees]

end Message

end ActorBus
