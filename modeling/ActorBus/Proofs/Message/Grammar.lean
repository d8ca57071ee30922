import ActorBus.Message.Assembly
import ActorBus.Proofs.Text.Digits

/-!
# Which frame lists are messages

`Message.decode` checks a message in four places: in the step of each frame, in the guard that an
earlier frame has set, in the alternation of tags and values, and at the end. `Reads` says the same
as three rules, one for each kind of message, that look at a frame list from outside.

The ladder goes frame by frame. `decode_cons_cons` reads the two frames that every message has,
`decodeFrom_body` the frames of plain data, and `decodeFrom_counted` the arguments of an invocation
behind their count; `decode_eq_ok_iff` puts them together.
-/

set_option autoImplicit false

namespace ActorBus

/-! ## The parameter count -/

/-- What is left behind a given start is what the list is made up of. -/
theorem afterStart_eq_some_iff {α : Type} [DecidableEq α] (start cs rest : List α) :
    afterStart start cs = some rest ↔ cs = start ++ rest := by
  induction start generalizing cs with
  | nil => simp [afterStart]
  | cons x xs ih =>
    cases cs with
    | nil => simp [afterStart]
    | cons c cs =>
      simp only [afterStart, List.cons_append, List.cons.injEq]
      by_cases h : x = c
      · simp [h, ih]
      · simp [h, Ne.symm h]

/-- A row of decimal digits that stands for a number of 64 bits. -/
def Digits64 (digits : List Char) (n : Nat) : Prop :=
  digits ≠ [] ∧ (∀ c ∈ digits, c.isDigit = true) ∧ Nat.ofDigitChars 10 digits 0 = n ∧
    n < UInt64.size

/-- The three checks on a numeral without its sign let exactly the rows of digits pass. -/
theorem checked_eq_some_iff (digits : List Char) (n : Nat) :
    (if digits ≠ [] ∧ digits.all Char.isDigit then
      let n := digits.foldl (fun n c => n * 10 + (c.toNat - 48)) 0
      if n < UInt64.size then some n else none
    else none) = some n ↔ Digits64 digits n := by
  simp only [foldl_digits_eq, Digits64, List.all_eq_true, Option.ite_none_right_eq_some,
    Option.some.injEq]
  constructor
  · rintro ⟨⟨hne, hdigits⟩, hlt, rfl⟩
    exact ⟨hne, hdigits, rfl, hlt⟩
  · rintro ⟨hne, hdigits, rfl, hlt⟩
    exact ⟨⟨hne, hdigits⟩, hlt, rfl⟩

/-- A row of digits does not start with a plus sign. -/
theorem not_digits64_plus (digits : List Char) (n : Nat) : ¬ Digits64 ('+' :: digits) n := by
  intro h
  exact absurd (h.2.1 '+' List.mem_cons_self) (by decide)

/-- A count is a row of digits between blanks, possibly behind a plus sign. -/
theorem parseCount_eq_some_iff (text : List Char) (n : Nat) :
    parseCount text = some n ↔
      ∃ digits, (Blank.trim text = digits ∨ Blank.trim text = '+' :: digits) ∧
        Digits64 digits n := by
  unfold parseCount
  split
  · next rest htrim =>
    rw [checked_eq_some_iff, htrim]
    constructor
    · intro h
      exact ⟨rest, .inr rfl, h⟩
    · rintro ⟨digits, rfl | h, hdigits⟩
      · exact absurd hdigits (not_digits64_plus rest n)
      · cases h
        exact hdigits
  · next hplus =>
    rw [checked_eq_some_iff]
    constructor
    · intro h
      exact ⟨_, .inl rfl, h⟩
    · rintro ⟨digits, rfl | h, hdigits⟩
      · exact hdigits
      · exact absurd h (hplus digits)

namespace Message

/-- A parameter count text: the label, and behind it a row of digits for a number of 64 bits, which
may stand between blanks and behind a plus sign. -/
def CountText (text : String) (n : Nat) : Prop :=
  ∃ rest digits, text.toList = countLabel.toList ++ rest ∧
    (Blank.trim rest = digits ∨ Blank.trim rest = '+' :: digits) ∧ Digits64 digits n

/-- Exactly the parameter count texts are read as their number. -/
theorem parseCountText_eq_some_iff (text : String) (n : Nat) :
    parseCountText text = some n ↔ CountText text n := by
  simp only [parseCountText, Option.bind_eq_some_iff, afterStart_eq_some_iff,
    parseCount_eq_some_iff, CountText, exists_and_left]

end Message

/-! ## The arguments -/

/-- The frames of arguments: for each of them, in order, a type tag and a value that can be read
under that tag. -/
inductive ArgumentFrames (codec : Codec) : List Frame → List Argument → Prop where
  | nil : ArgumentFrames codec [] []
  | cons {tagFrame value : Frame} {tag : String} {a : Argument} {frames : List Frame}
      {args : List Argument} (htag : codec.decodeText tagFrame = .ok tag)
      (hvalue : Argument.ofTagged codec tag value = .ok a)
      (hrest : ArgumentFrames codec frames args) :
      ArgumentFrames codec (tagFrame :: value :: frames) (a :: args)

/-- The frames of arguments start with a tag and the value of the first of them. -/
theorem argumentFrames_cons_cons_iff (codec : Codec) (tagFrame value : Frame)
    (frames : List Frame) (args : List Argument) :
    ArgumentFrames codec (tagFrame :: value :: frames) args ↔
      ∃ tag a rest, codec.decodeText tagFrame = .ok tag ∧
        Argument.ofTagged codec tag value = .ok a ∧ ArgumentFrames codec frames rest ∧
        args = a :: rest := by
  constructor
  · intro h
    cases h with
    | cons htag hvalue hrest => exact ⟨_, _, _, htag, hvalue, hrest, rfl⟩
  · rintro ⟨tag, a, rest, htag, hvalue, hrest, rfl⟩
    exact .cons htag hvalue hrest

/-- Arguments take two frames each. -/
theorem ArgumentFrames.length_eq {codec : Codec} {frames : List Frame} {args : List Argument}
    (h : ArgumentFrames codec frames args) : frames.length = 2 * args.length := by
  induction h with
  | nil => rfl
  | cons _ _ _ ih =>
    simp only [List.length_cons, ih]
    omega

namespace Assembly

/-- An invocation of which the count and some whole arguments have been read. -/
def counted (address : String) (kind : Frame) (handle : MethodHandle) (declared : Nat)
    (args : List Argument) : Assembly :=
  { address := some address, kind := some kind, messageType := some Message.invokeType,
    handle := some handle, declared := some declared, expectsTag := true, args }

/-- Behind the count every frame of an invocation is a tag or a value. -/
theorem accept_argument (codec : Codec) (index : Nat) (frame : Frame) (s : Assembly)
    (hindex : 4 ≤ index) (hs : s.isInvocation = true) :
    s.accept codec index frame = s.acceptArgument codec frame := by
  rw [accept, if_neg (by omega), if_neg (by omega), hs, if_neg (by simp), if_neg (by omega),
    if_neg (by omega)]

/-- Between two arguments a frame is taken for a tag. -/
theorem accept_counted (codec : Codec) (index : Nat) (frame : Frame) (address : String)
    (kind : Frame) (handle : MethodHandle) (declared : Nat) (args : List Argument)
    (hindex : 4 ≤ index) :
    (counted address kind handle declared args).accept codec index frame =
      match codec.decodeText frame with
      | .ok tag =>
        ({ counted address kind handle declared args with
            pendingTag := some tag, expectsTag := false }, .ok .proceed)
      | .error e => (counted address kind handle declared args, .error e) := by
  rw [accept_argument codec index frame _ hindex (by simp [isInvocation, counted])]
  rfl

/-- Behind a tag a frame is taken for its value. -/
theorem accept_value (codec : Codec) (index : Nat) (frame : Frame) (address : String)
    (kind : Frame) (handle : MethodHandle) (declared : Nat) (args : List Argument) (tag : String)
    (hindex : 4 ≤ index) :
    accept codec index frame { counted address kind handle declared args with
          pendingTag := some tag, expectsTag := false } =
      match Argument.ofTagged codec tag frame with
      | .ok a => (counted address kind handle declared (args ++ [a]), .ok .proceed)
      | .error e =>
        ({ counted address kind handle declared args with expectsTag := false }, .error e) := by
  rw [accept_argument codec index frame _ hindex (by simp [isInvocation, counted])]
  simp only [acceptArgument, Bool.false_eq_true, if_false]
  cases Argument.ofTagged codec tag frame <;> rfl

/-- Between two arguments an invocation can end, if there have been as many as were declared. -/
theorem finish_counted (address : String) (kind : Frame) (handle : MethodHandle) (declared : Nat)
    (args : List Argument) :
    (counted address kind handle declared args).finish =
      if declared = args.length then
        .ok ⟨address, kind, some Message.invokeType, some ⟨handle, args⟩, []⟩
      else .error (.parameterCountMismatch declared args.length) := by
  by_cases h : declared = args.length <;>
    simp [finish, counted, isInvocation, finishInvocation, h, Except.map, bind, Except.bind]

/-- Behind a tag an invocation cannot end. -/
theorem finish_tagged (address : String) (kind : Frame) (handle : MethodHandle) (declared : Nat)
    (args : List Argument) (tag : String) :
    finish { counted address kind handle declared args with
        pendingTag := some tag, expectsTag := false } = .error (.danglingTypeTag tag) := by
  simp [finish, counted, isInvocation, finishInvocation, Except.map, bind, Except.bind]

end Assembly

namespace Message

/-- Reading goes on behind a frame that is taken. -/
theorem decodeFrom_cons_of_proceed (codec : Codec) (index : Nat) (s s' : Assembly) (frame : Frame)
    (rest : List Frame) (h : s.accept codec index frame = (s', .ok .proceed)) :
    decodeFrom codec index s (frame :: rest) = decodeFrom codec (index + 1) s' rest := by
  rw [decodeFrom, h]

/-- Reading ends with the envelope of a message that can be closed. -/
theorem decodeFrom_nil_of_ok (codec : Codec) (index : Nat) (s : Assembly) (e : Envelope)
    (h : s.finish = .ok e) : decodeFrom codec index s [] = .ok (.message e) := by
  rw [decodeFrom, h]
  rfl

/-- Reading fails behind the last frame of a message that cannot be closed. -/
theorem decodeFrom_nil_of_error (codec : Codec) (index : Nat) (s : Assembly) (e : CodecError)
    (h : s.finish = .error e) : decodeFrom codec index s [] = .error ⟨index, e⟩ := by
  rw [decodeFrom, h]
  rfl

/-- Reading ends at a frame that is refused. -/
theorem decodeFrom_cons_of_error (codec : Codec) (index : Nat) (s s' : Assembly) (frame : Frame)
    (rest : List Frame) (e : CodecError) (h : s.accept codec index frame = (s', .error e)) :
    decodeFrom codec index s (frame :: rest) = .error ⟨index, e⟩ := by
  rw [decodeFrom, h]

/-- **Behind the count** exactly the frames of as many arguments as are missing are read, and they
are read as those arguments. -/
theorem decodeFrom_counted (codec : Codec) (address : String) (kind : Frame)
    (handle : MethodHandle) (declared : Nat) (d : Decoded) :
    ∀ (frames : List Frame) (index : Nat) (args : List Argument), 4 ≤ index →
      (decodeFrom codec index (.counted address kind handle declared args) frames = .ok d ↔
        ∃ more, ArgumentFrames codec frames more ∧ declared = (args ++ more).length ∧
          d = .message ⟨address, kind, some invokeType, some ⟨handle, args ++ more⟩, []⟩)
  | [], index, args, _ => by
    rw [decodeFrom, Assembly.finish_counted]
    constructor
    · intro h
      split at h
      · next hlen =>
        cases h
        exact ⟨[], .nil, by simpa using hlen, by simp⟩
      · cases h
    · rintro ⟨more, hmore, hlen, rfl⟩
      cases hmore
      simp only [List.append_nil] at hlen ⊢
      rw [if_pos hlen]
      rfl
  | [tagFrame], index, args, hindex => by
    have hstep := Assembly.accept_counted codec index tagFrame address kind handle declared args
      hindex
    -- a tag without a value is no argument
    have hnone : ¬ ∃ more, ArgumentFrames codec [tagFrame] more ∧
        declared = (args ++ more).length ∧
          d = .message ⟨address, kind, some invokeType, some ⟨handle, args ++ more⟩, []⟩ := by
      rintro ⟨more, hmore, -, -⟩
      cases hmore
    rw [iff_false_intro hnone, iff_false]
    intro h
    cases htag : codec.decodeText tagFrame with
    | error e =>
      rw [htag] at hstep
      rw [decodeFrom_cons_of_error codec index _ _ _ _ e hstep] at h
      cases h
    | ok tag =>
      rw [htag] at hstep
      rw [decodeFrom_cons_of_proceed codec index _ _ _ _ hstep, decodeFrom_nil_of_error _ _ _ _
        (Assembly.finish_tagged address kind handle declared args tag)] at h
      cases h
  | tagFrame :: value :: frames, index, args, hindex => by
    have hstep := Assembly.accept_counted codec index tagFrame address kind handle declared args
      hindex
    simp only [argumentFrames_cons_cons_iff]
    cases htag : codec.decodeText tagFrame with
    | error e =>
      rw [htag] at hstep
      rw [decodeFrom_cons_of_error codec index _ _ _ _ e hstep]
      simp
    | ok tag =>
      rw [htag] at hstep
      have hvalue := Assembly.accept_value codec (index + 1) value address kind handle declared args
        tag (by omega)
      rw [decodeFrom_cons_of_proceed codec index _ _ _ _ hstep]
      cases ha : Argument.ofTagged codec tag value with
      | error e =>
        rw [ha] at hvalue
        rw [decodeFrom_cons_of_error codec (index + 1) _ _ _ _ e hvalue]
        simp [ha]
      | ok a =>
        rw [ha] at hvalue
        rw [decodeFrom_cons_of_proceed codec (index + 1) _ _ _ _ hvalue,
          decodeFrom_counted codec address kind handle declared d frames (index + 2) (args ++ [a])
            (by omega)]
        constructor
        · rintro ⟨more, hmore, hlen, rfl⟩
          rw [List.append_assoc, List.singleton_append] at hlen
          exact ⟨a :: more, ⟨tag, a, more, rfl, ha, hmore, rfl⟩, hlen, by simp⟩
        · rintro ⟨_, ⟨tag', a', more, htag', ha', hmore, rfl⟩, hlen, rfl⟩
          cases htag'
          rw [ha] at ha'
          cases ha'
          refine ⟨more, hmore, ?_, ?_⟩
          · rw [List.append_assoc, List.singleton_append]
            exact hlen
          · rw [List.append_assoc, List.singleton_append]

end Message

/-! ## The first frames -/

namespace Assembly

/-- What has been read of a message after its two first frames. -/
def headed (codec : Codec) (address : String) (kind : Frame) : Assembly :=
  { address := some address, kind := some kind, messageType := (codec.decodeText kind).toOption }

/-- A second frame that reads as `invoke` opens an invocation, and no other does. -/
theorem isInvocation_headed (codec : Codec) (address : String) (kind : Frame) :
    (headed codec address kind).isInvocation = true ↔
      codec.decodeText kind = .ok Message.invokeType := by
  simp only [isInvocation, headed]
  cases codec.decodeText kind with
  | error e => simp [Except.toOption]
  | ok text => simp [Except.toOption]

/-- In plain data every frame behind the second one is body. -/
theorem accept_body (codec : Codec) (index : Nat) (frame : Frame) (s : Assembly)
    (hindex : 2 ≤ index) (hs : s.isInvocation = false) :
    s.accept codec index frame = ({ s with body := s.body ++ [frame] }, .ok .proceed) := by
  rw [accept, if_neg (by omega), if_neg (by omega), hs]
  rfl

/-- Before a method handle every message can be closed, as plain data. -/
theorem finish_headed (codec : Codec) (address : String) (kind : Frame) (body : List Frame) :
    finish { headed codec address kind with body } =
      .ok ⟨address, kind, (codec.decodeText kind).toOption, none, body⟩ := by
  have hs : isInvocation { headed codec address kind with body } =
    (headed codec address kind).isInvocation := rfl
  rw [finish, hs]
  cases (headed codec address kind).isInvocation <;> rfl

/-- Between the method handle and the parameter count no invocation can be closed. -/
theorem finish_handled (codec : Codec) (address : String) (kind : Frame) (handle : MethodHandle)
    (hs : (headed codec address kind).isInvocation = true) :
    finish { headed codec address kind with handle := some handle } =
      .error (.truncated .parameterCount) := by
  rw [isInvocation] at hs
  rw [finish, isInvocation]
  simp only [hs]
  rfl

/-- The third frame of an invocation is the handle. -/
theorem accept_handle (codec : Codec) (frame : Frame) (s : Assembly)
    (hs : s.isInvocation = true) : s.accept codec 2 frame = s.acceptHandle codec frame := by
  simp [accept, hs]

/-- The fourth frame of an invocation is the parameter count. -/
theorem accept_count (codec : Codec) (frame : Frame) (s : Assembly)
    (hs : s.isInvocation = true) : s.accept codec 3 frame = s.acceptCount codec frame := by
  simp [accept, hs]

end Assembly

namespace Message

/-- The two first frames decide whether the rest is looked at. -/
theorem decode_cons_cons (codec : Codec) (addressFrame kind : Frame) (rest : List Frame) :
    decode codec (addressFrame :: kind :: rest) =
      match codec.decodeText addressFrame with
      | .error e => .error ⟨0, e⟩
      | .ok address =>
        if (codec.decodeText kind).toOption.any isStop then .ok (.stop address)
        else decodeFrom codec 2 (.headed codec address kind) rest := by
  rw [decode, decodeFrom]
  simp only [Assembly.accept, if_true, Assembly.acceptAddress]
  cases codec.decodeText addressFrame with
  | error e => rfl
  | ok address =>
    simp only [decodeFrom, Assembly.accept, Assembly.acceptKind, Nat.zero_add, Nat.one_ne_zero,
      if_false, if_true]
    cases (codec.decodeText kind).toOption.any isStop <;> rfl

/-- The rest of plain data is its body, whatever the frames hold. -/
theorem decodeFrom_body (codec : Codec) (address : String) (kind : Frame) (frames : List Frame)
    (hkind : codec.decodeText kind ≠ .ok invokeType) (index : Nat) (hindex : 2 ≤ index)
    (body : List Frame) :
    decodeFrom codec index { Assembly.headed codec address kind with body } frames =
      .ok (.message ⟨address, kind, (codec.decodeText kind).toOption, none, body ++ frames⟩) := by
  have hs : (Assembly.headed codec address kind).isInvocation = false := by
    rw [Bool.eq_false_iff, ne_eq, Assembly.isInvocation_headed]
    exact hkind
  induction frames generalizing index body with
  | nil =>
    rw [List.append_nil]
    exact decodeFrom_nil_of_ok _ _ _ _ (Assembly.finish_headed codec address kind body)
  | cons frame frames ih =>
    have haccept := Assembly.accept_body codec index frame
      { Assembly.headed codec address kind with body } hindex hs
    have hrest := ih (index + 1) (by omega) (body ++ [frame])
    rw [List.append_assoc, List.singleton_append] at hrest
    exact (decodeFrom_cons_of_proceed codec index _ _ frame frames haccept).trans hrest

/-- Plain data can always be read. -/
theorem decodeFrom_headed_of_data (codec : Codec) (address : String) (kind : Frame)
    (body : List Frame) (h : codec.decodeText kind ≠ .ok invokeType ∨ body = []) :
    decodeFrom codec 2 (.headed codec address kind) body =
      .ok (.message ⟨address, kind, (codec.decodeText kind).toOption, none, body⟩) := by
  rcases h with hkind | rfl
  · exact decodeFrom_body codec address kind body hkind 2 (Nat.le_refl 2) []
  · exact decodeFrom_nil_of_ok _ _ _ _ (Assembly.finish_headed codec address kind [])

/-- The frames of an invocation behind the second one are read exactly when they are a handle, a
count and that many arguments. -/
theorem decodeFrom_headed_of_invocation (codec : Codec) (address : String) (kind : Frame)
    (handleFrame : Frame) (rest : List Frame) (d : Decoded)
    (hkind : codec.decodeText kind = .ok invokeType) :
    decodeFrom codec 2 (.headed codec address kind) (handleFrame :: rest) = .ok d ↔
      ∃ countFrame frames handle text args, rest = countFrame :: frames ∧
        codec.decode .handle handleFrame = .ok handle ∧ codec.decodeText countFrame = .ok text ∧
        CountText text args.length ∧ ArgumentFrames codec frames args ∧
        d = .message ⟨address, kind, some invokeType, some ⟨handle, args⟩, []⟩ := by
  have hs := (Assembly.isInvocation_headed codec address kind).mpr hkind
  have hhandle := Assembly.accept_handle codec handleFrame _ hs
  rw [Assembly.acceptHandle] at hhandle
  cases hdec : codec.decode .handle handleFrame with
  | error e =>
    rw [hdec] at hhandle
    rw [decodeFrom_cons_of_error codec 2 _ _ _ _ e hhandle]
    simp
  | ok handle =>
    rw [hdec] at hhandle
    rw [decodeFrom_cons_of_proceed codec 2 _ _ _ _ hhandle]
    cases rest with
    | nil =>
      rw [decodeFrom_nil_of_error _ _ _ _ (Assembly.finish_handled codec address kind handle hs)]
      simp
    | cons countFrame frames =>
      have hcount := Assembly.accept_count codec countFrame
        { Assembly.headed codec address kind with handle := some handle } hs
      rw [Assembly.acceptCount] at hcount
      cases htext : codec.decodeText countFrame with
      | error e =>
        rw [htext] at hcount
        rw [decodeFrom_cons_of_error codec 3 _ _ _ _ e hcount]
        simp [htext]
      | ok text =>
        rw [htext] at hcount
        cases hn : parseCountText text with
        | none =>
          simp only [hn] at hcount
          rw [decodeFrom_cons_of_error codec 3 _ _ _ _ _ hcount]
          simp only [reduceCtorEq, false_iff]
          rintro ⟨_, _, _, text', args, ⟨rfl, rfl⟩, -, htext', hcount', -⟩
          rw [htext] at htext'
          cases htext'
          rw [← parseCountText_eq_some_iff, hn] at hcount'
          cases hcount'
        | some n =>
          simp only [hn] at hcount
          have hstate : ({ Assembly.headed codec address kind with
              handle := some handle, declared := some n, expectsTag := true } : Assembly) =
              .counted address kind handle n [] := by
            simp [Assembly.headed, Assembly.counted, hkind, Except.toOption]
          rw [decodeFrom_cons_of_proceed codec 3 _ _ _ _ hcount, hstate,
            decodeFrom_counted codec address kind handle n d frames (3 + 1) [] (by omega)]
          constructor
          · rintro ⟨args, hargs, rfl, rfl⟩
            exact ⟨countFrame, frames, handle, text, args, rfl, rfl, htext,
              (parseCountText_eq_some_iff _ _).mp hn, hargs, rfl⟩
          · rintro ⟨_, _, handle', text', args, ⟨rfl, rfl⟩, hhandle', htext', hcount', hargs, rfl⟩
            cases hhandle'
            rw [htext] at htext'
            cases htext'
            rw [← parseCountText_eq_some_iff, hn] at hcount'
            cases hcount'
            exact ⟨args, hargs, rfl, rfl⟩

/-- **The grammar of messages.** What a frame list says, by its kind: a stop order looks at two
frames and at nothing behind them; an invocation accounts for every frame; plain data takes the
frames behind the second one as they are. -/
inductive Reads (codec : Codec) : List Frame → Decoded → Prop where
  | stop {addressFrame kind : Frame} {rest : List Frame} {address text : String}
      (haddress : codec.decodeText addressFrame = .ok address)
      (hkind : codec.decodeText kind = .ok text) (hstop : isStop text = true) :
      Reads codec (addressFrame :: kind :: rest) (.stop address)
  | invocation {addressFrame kind handleFrame countFrame : Frame} {frames : List Frame}
      {address text : String} {handle : MethodHandle} {args : List Argument}
      (haddress : codec.decodeText addressFrame = .ok address)
      (hkind : codec.decodeText kind = .ok invokeType)
      (hhandle : codec.decode .handle handleFrame = .ok handle)
      (htext : codec.decodeText countFrame = .ok text) (hcount : CountText text args.length)
      (hargs : ArgumentFrames codec frames args) :
      Reads codec (addressFrame :: kind :: handleFrame :: countFrame :: frames)
        (.message ⟨address, kind, some invokeType, some ⟨handle, args⟩, []⟩)
  | data {addressFrame kind : Frame} {body : List Frame} {address : String}
      (haddress : codec.decodeText addressFrame = .ok address)
      (hkind : ∀ text, codec.decodeText kind = .ok text → isStop text = false)
      (hdata : codec.decodeText kind ≠ .ok invokeType ∨ body = []) :
      Reads codec (addressFrame :: kind :: body)
        (.message ⟨address, kind, (codec.decodeText kind).toOption, none, body⟩)

/-- A second frame orders a stop exactly when it reads as a text that does. -/
theorem any_isStop_iff (codec : Codec) (kind : Frame) :
    (codec.decodeText kind).toOption.any isStop = true ↔
      ∃ text, codec.decodeText kind = .ok text ∧ isStop text = true := by
  cases codec.decodeText kind <;> simp [Except.toOption]

/-- A second frame orders no stop exactly when no text that it reads as does. -/
theorem not_any_isStop_iff (codec : Codec) (kind : Frame) :
    ¬ (codec.decodeText kind).toOption.any isStop = true ↔
      ∀ text, codec.decodeText kind = .ok text → isStop text = false := by
  cases codec.decodeText kind <;> simp [Except.toOption]

/-- A frame list is read as what the grammar says, and as nothing else. -/
theorem decode_eq_ok_iff (codec : Codec) (frames : List Frame) (d : Decoded) :
    decode codec frames = .ok d ↔ Reads codec frames d := by
  match frames with
  | [] =>
    constructor
    · intro h
      cases h
    · intro h
      cases h
  | [addressFrame] =>
    constructor
    · intro h
      rw [decode, decodeFrom] at h
      simp only [Assembly.accept, if_true, Assembly.acceptAddress] at h
      cases haddress : codec.decodeText addressFrame <;> rw [haddress] at h <;> cases h
    · intro h
      cases h
  | addressFrame :: kind :: rest =>
    rw [decode_cons_cons]
    constructor
    · intro h
      split at h
      · cases h
      · next address haddress =>
        split at h
        · next hstop =>
          cases h
          obtain ⟨text, hkind, hstop⟩ := (any_isStop_iff codec kind).mp hstop
          exact .stop haddress hkind hstop
        · next hstop =>
          have hplain := (not_any_isStop_iff codec kind).mp hstop
          by_cases hdata : codec.decodeText kind ≠ .ok invokeType ∨ rest = []
          · rw [decodeFrom_headed_of_data codec address kind rest hdata] at h
            cases h
            exact .data haddress hplain hdata
          · simp only [ne_eq, not_or, Classical.not_not] at hdata
            obtain ⟨hkind, hne⟩ := hdata
            obtain ⟨handleFrame, rest, rfl⟩ := List.exists_cons_of_ne_nil hne
            obtain ⟨countFrame, frames, handle, text, args, rfl, hhandle, htext, hcount, hargs,
              rfl⟩ := (decodeFrom_headed_of_invocation codec address kind handleFrame rest d
                hkind).mp h
            exact .invocation haddress hkind hhandle htext hcount hargs
    · intro h
      cases h with
      | stop haddress hkind hstop =>
        rw [haddress]
        simp only
        rw [if_pos ((any_isStop_iff codec kind).mpr ⟨_, hkind, hstop⟩)]
      | invocation haddress hkind hhandle htext hcount hargs =>
        have hplain : isStop invokeType ≠ true := by decide
        rw [haddress]
        simp only [hkind, Except.toOption, Option.any_some, if_neg hplain]
        exact (decodeFrom_headed_of_invocation codec _ kind _ _ _ hkind).mpr
          ⟨_, _, _, _, _, rfl, hhandle, htext, hcount, hargs, rfl⟩
      | data haddress hkind hdata =>
        have hplain := (not_any_isStop_iff codec kind).mpr hkind
        rw [haddress]
        simp only [if_neg hplain]
        exact decodeFrom_headed_of_data codec _ kind rest hdata

/-- **Reading accepts exactly the grammar.** A frame list is a stop order, an invocation or plain
data under the conditions given here, each of them says all that the result holds, and a frame list
that meets none of them is refused. -/
theorem decode_accepts_exactly_grammar (codec : Codec) (frames : List Frame) :
    (∀ address, decode codec frames = .ok (.stop address) ↔
      ∃ addressFrame kind rest text, frames = addressFrame :: kind :: rest ∧
        codec.decodeText addressFrame = .ok address ∧ codec.decodeText kind = .ok text ∧
        isStop text = true) ∧
    (∀ e call, decode codec frames = .ok (.message e) ∧ e.invocation = some call ↔
      ∃ addressFrame kind handleFrame countFrame argumentFrames text,
        frames = addressFrame :: kind :: handleFrame :: countFrame :: argumentFrames ∧
        frames.length = 4 + 2 * call.args.length ∧
        codec.decodeText addressFrame = .ok e.address ∧
        codec.decodeText kind = .ok invokeType ∧
        codec.decode .handle handleFrame = .ok call.handle ∧
        codec.decodeText countFrame = .ok text ∧ CountText text call.args.length ∧
        ArgumentFrames codec argumentFrames call.args ∧
        e = ⟨e.address, kind, some invokeType, some call, []⟩) ∧
    (∀ e, decode codec frames = .ok (.message e) ∧ e.invocation = none ↔
      ∃ addressFrame kind body, frames = addressFrame :: kind :: body ∧
        codec.decodeText addressFrame = .ok e.address ∧
        (∀ text, codec.decodeText kind = .ok text → isStop text = false) ∧
        (codec.decodeText kind ≠ .ok invokeType ∨ body = []) ∧
        e = ⟨e.address, kind, (codec.decodeText kind).toOption, none, body⟩) ∧
    ((∃ f, decode codec frames = .error f) ↔ ∀ d, ¬ Reads codec frames d) := by
  refine ⟨?_, ?_, ?_, ?_⟩
  · intro address
    rw [decode_eq_ok_iff]
    constructor
    · intro h
      cases h with
      | stop haddress hkind hstop => exact ⟨_, _, _, _, rfl, haddress, hkind, hstop⟩
    · rintro ⟨_, _, _, _, rfl, haddress, hkind, hstop⟩
      exact .stop haddress hkind hstop
  · intro e call
    rw [decode_eq_ok_iff]
    constructor
    · rintro ⟨h, hcall⟩
      cases h with
      | invocation haddress hkind hhandle htext hcount hargs =>
        cases hcall
        refine ⟨_, _, _, _, _, _, rfl, ?_, haddress, hkind, hhandle, htext, hcount, hargs, rfl⟩
        simp only [List.length_cons, hargs.length_eq]
        omega
      | data _ _ _ => cases hcall
    · rintro ⟨_, _, _, _, _, _, rfl, -, haddress, hkind, hhandle, htext, hcount, hargs, he⟩
      rw [he]
      exact ⟨.invocation haddress hkind hhandle htext hcount hargs, rfl⟩
  · intro e
    rw [decode_eq_ok_iff]
    constructor
    · rintro ⟨h, hcall⟩
      cases h with
      | invocation _ _ _ _ _ _ => cases hcall
      | data haddress hkind hdata => exact ⟨_, _, _, rfl, haddress, hkind, hdata, rfl⟩
    · rintro ⟨_, _, _, rfl, haddress, hkind, hdata, he⟩
      rw [he]
      exact ⟨.data haddress hkind hdata, rfl⟩
  · simp only [← decode_eq_ok_iff]
    cases decode codec frames <;> simp

end Message

end ActorBus
