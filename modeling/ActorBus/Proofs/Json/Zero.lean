import ActorBus.Json.Object
import Mathlib.Data.List.TakeWhile

/-!
# No zero byte in JSON

Every reader takes a row of bytes from the front and leaves the rest. `Passes` says that the row
holds no zero byte, and is shown of the readers from the blanks up to the objects, skipped values
included. So a frame with a zero byte in it is no JSON object (`zero_not_mem_of_decode`).
-/

set_option autoImplicit false

namespace ActorBus.Json

/-- From one place to a later one no zero byte is passed. -/
def Passes (bytes rest : Bytes) : Prop := ∃ passed, bytes = passed ++ rest ∧ (0 : UInt8) ∉ passed

/-- A reader that takes nothing passes no zero. -/
theorem Passes.refl (bytes : Bytes) : Passes bytes bytes := ⟨[], rfl, List.not_mem_nil⟩

/-- Readers that pass no zero one after the other pass none. -/
theorem Passes.trans {bytes middle rest : Bytes} (h : Passes bytes middle)
    (h' : Passes middle rest) : Passes bytes rest := by
  obtain ⟨first, rfl, hfirst⟩ := h
  obtain ⟨second, rfl, hsecond⟩ := h'
  refine ⟨first ++ second, (List.append_assoc first second rest).symm, ?_⟩
  rw [List.mem_append, not_or]
  exact ⟨hfirst, hsecond⟩

/-- To take one byte that is not zero passes no zero. -/
theorem Passes.cons {bytes rest : Bytes} {b : UInt8} (hb : b ≠ 0) (h : Passes bytes rest) :
    Passes (b :: bytes) rest := by
  obtain ⟨passed, rfl, hpassed⟩ := h
  refine ⟨b :: passed, rfl, ?_⟩
  rw [List.mem_cons, not_or]
  exact ⟨hb.symm, hpassed⟩

/-- To drop bytes that are not zero passes no zero. -/
theorem passes_dropWhile (p : UInt8 → Bool) (hp : p 0 = false) (bytes : Bytes) :
    Passes bytes (bytes.dropWhile p) := by
  refine ⟨bytes.takeWhile p, List.takeWhile_append_dropWhile.symm, ?_⟩
  intro hzero
  have := List.mem_takeWhile_imp hzero
  rw [hp] at this
  cases this

/-! ## Tokens -/

/-- Blanks are no zeros. -/
theorem passes_skipBlanks (bytes : Bytes) : Passes bytes (skipBlanks bytes) :=
  passes_dropWhile isBlank (by decide) bytes

/-- A byte behind blanks. -/
theorem passes_of_skipBlanks {bytes rest : Bytes} {b : UInt8} (h : skipBlanks bytes = b :: rest)
    (hb : b ≠ 0) : Passes bytes rest := by
  have hblanks := passes_skipBlanks bytes
  rw [h] at hblanks
  exact hblanks.trans (.cons hb (.refl rest))

/-- What is made of the first byte behind blanks and of the bytes after it. -/
def behindBlanks {α : Type} (next : UInt8 → Bytes → Option α) (bytes : Bytes) : Option α :=
  match skipBlanks bytes with
  | [] => none
  | b :: rest => next b rest

/-- What is read behind blanks begins with the first byte behind them. -/
theorem exists_of_behindBlanks {α : Type} {next : UInt8 → Bytes → Option α} {bytes : Bytes} {a : α}
    (h : behindBlanks next bytes = some a) :
    ∃ b rest, skipBlanks bytes = b :: rest ∧ next b rest = some a := by
  unfold behindBlanks at h
  split at h
  · cases h
  · rename_i b rest hblanks
    exact ⟨b, rest, hblanks, h⟩

/-- A row without a zero that is expected and found passes no zero. -/
theorem passes_expect {row bytes rest : Bytes} (hrow : (0 : UInt8) ∉ row)
    (h : expect row bytes = some rest) : Passes bytes rest := by
  induction row generalizing bytes with
  | nil =>
    cases h
    exact .refl _
  | cons x row ih =>
    rw [List.mem_cons, not_or] at hrow
    cases bytes with
    | nil => cases h
    | cons y bytes =>
      rw [expect, Option.ite_none_right_eq_some] at h
      obtain ⟨rfl, h⟩ := h
      exact .cons (Ne.symm hrow.1) (ih hrow.2 h)

/-- A token that is expected and found passes no zero. -/
theorem passes_expectToken {x : UInt8} (hx : x ≠ 0) {bytes rest : Bytes}
    (h : expectToken x bytes = some rest) : Passes bytes rest := by
  have hrow : (0 : UInt8) ∉ [x] := by simpa using hx.symm
  exact (passes_skipBlanks bytes).trans (passes_expect hrow h)

/-! ## Strings -/

/-- A letter that is escaped is not zero. -/
theorem ne_zero_of_letterEscape {e y : UInt8} (h : letterEscape e = some y) : e ≠ 0 := by
  rintro rfl
  cases h

/-- A hexadecimal digit is not zero as a byte. -/
theorem ne_zero_of_nibble {b : UInt8} {n : Nat} (h : Hex.nibble (Char.ofNat b.toNat) = some n) :
    b ≠ 0 := by
  rintro rfl
  cases h

/-- Four hexadecimal digits are not zero as bytes. -/
theorem ne_zero_of_hexQuad {a b c d : UInt8} {n : Nat} (h : hexQuad a b c d = some n) :
    a ≠ 0 ∧ b ≠ 0 ∧ c ≠ 0 ∧ d ≠ 0 := by
  simp only [hexQuad, bind, Option.bind_eq_some_iff] at h
  obtain ⟨_, ha, _, hb, _, hc, _, hd, -⟩ := h
  exact ⟨ne_zero_of_nibble ha, ne_zero_of_nibble hb, ne_zero_of_nibble hc, ne_zero_of_nibble hd⟩

/-- Four digits of an escape. -/
theorem passes_hexQuad {a b c d : UInt8} {n : Nat} {bytes rest : Bytes}
    (h : hexQuad a b c d = some n) (hrest : Passes bytes rest) :
    Passes (a :: b :: c :: d :: bytes) rest := by
  obtain ⟨ha, hb, hc, hd⟩ := ne_zero_of_hexQuad h
  exact .cons ha (.cons hb (.cons hc (.cons hd hrest)))

/-- A byte that is no control character is not zero. -/
theorem ne_zero_of_not_lt {x : UInt8} (h : ¬ x < 0x20) : x ≠ 0 := by
  rintro rfl
  exact h (by decide)

/-- The body of a string passes no zero. -/
theorem passes_stringBody {bytes rest text : Bytes} (h : stringBody bytes = some (text, rest)) :
    Passes bytes rest := by
  fun_induction stringBody bytes generalizing text rest with
  | case2 after =>
    cases h
    exact .cons (by decide) (.refl _)
  | case8 a b c d u hu _ _ s t a' b' c' d' after hst v hv =>
    rename_i ih
    -- two escapes that make up one character
    obtain ⟨rfl, rfl⟩ := hst
    obtain ⟨_, hbody, hpair⟩ := Option.map_eq_some_iff.mp h
    obtain ⟨-, rfl⟩ := Prod.mk.inj hpair
    have hlow : Passes (0x5C :: 0x75 :: a' :: b' :: c' :: d' :: after) _ :=
      .cons (by decide) (.cons (by decide) (passes_hexQuad hv (ih hbody)))
    exact .cons (by decide) (.cons (by decide) (passes_hexQuad hu hlow))
  | case12 a b c d after u hu _ _ _ _ ih =>
    obtain ⟨_, hbody, hpair⟩ := Option.map_eq_some_iff.mp h
    obtain ⟨-, rfl⟩ := Prod.mk.inj hpair
    exact .cons (by decide) (.cons (by decide) (passes_hexQuad hu (ih hbody)))
  | case15 e after _ y he _ _ ih =>
    obtain ⟨_, hbody, hpair⟩ := Option.map_eq_some_iff.mp h
    obtain ⟨-, rfl⟩ := Prod.mk.inj hpair
    exact .cons (by decide) (.cons (ne_zero_of_letterEscape he) (ih hbody))
  | case16 x after _ hcontrol _ ih =>
    obtain ⟨_, hbody, hpair⟩ := Option.map_eq_some_iff.mp h
    obtain ⟨-, rfl⟩ := Prod.mk.inj hpair
    exact .cons (ne_zero_of_not_lt hcontrol) (ih hbody)
  | _ => cases h

/-- A string that is skipped passes no zero. -/
theorem passes_skipString {bytes rest : Bytes} (h : skipString bytes = some rest) :
    Passes bytes rest := by
  fun_induction skipString bytes with
  | case2 after =>
    cases h
    exact .cons (by decide) (.refl _)
  | case5 a b c d after hquad _ _ ih =>
    obtain ⟨u, hu⟩ := Option.isSome_iff_exists.mp hquad
    exact .cons (by decide) (.cons (by decide) (passes_hexQuad hu (ih h)))
  | case8 e after _ hletter _ _ ih =>
    obtain ⟨y, hy⟩ := Option.isSome_iff_exists.mp hletter
    exact .cons (by decide) (.cons (ne_zero_of_letterEscape hy) (ih h))
  | case10 x after _ hcontrol _ ih => exact .cons (ne_zero_of_not_lt hcontrol) (ih h)
  | _ => cases h

/-- A text passes no zero. -/
theorem passes_readText {bytes rest : Bytes} {s : String} (h : readText bytes = some (s, rest)) :
    Passes bytes rest := by
  rw [readText, Option.bind_eq_some_iff] at h
  obtain ⟨body, hquote, htext⟩ := h
  simp only [stringText, bind, Option.bind_eq_some_iff] at htext
  obtain ⟨⟨raw, after⟩, hbody, hchars⟩ := htext
  simp only at hchars
  split at hchars
  · cases hchars
    exact (passes_expectToken (by decide) hquote).trans (passes_stringBody hbody)
  · cases hchars

/-! ## Numerals -/

/-- Digits pass no zero. -/
theorem passes_digits (bytes : Bytes) : Passes bytes (digits bytes).2 :=
  passes_dropWhile isDigit (by decide) bytes

/-- At least one digit passes no zero. -/
theorem passes_someDigits {bytes rest : Bytes} {ds : List Nat}
    (h : someDigits bytes = some (ds, rest)) : Passes bytes rest := by
  have hdigits := passes_digits bytes
  rw [someDigits] at h
  split at h
  · cases h
  · cases h
    exact hdigits

/-- The whole part of a numeral passes no zero. -/
theorem passes_wholePart {bytes rest : Bytes} {ds : List Nat}
    (h : wholePart bytes = some (ds, rest)) : Passes bytes rest := by
  have hdigits := passes_digits bytes
  rw [wholePart] at h
  split at h
  · cases h
  · cases h
  · cases h
    exact hdigits

/-- The fraction of a numeral passes no zero. -/
theorem passes_fractionPart {bytes rest : Bytes} {ds : Option (List Nat)}
    (h : fractionPart bytes = some (ds, rest)) : Passes bytes rest := by
  cases bytes with
  | nil =>
    cases h
    exact .refl _
  | cons b after =>
    rw [fractionPart] at h
    split at h
    · rename_i hpoint
      obtain ⟨_, hdigits, hpair⟩ := Option.map_eq_some_iff.mp h
      cases hpair
      rw [hpoint]
      exact .cons (by decide) (passes_someDigits hdigits)
    · cases h
      exact .refl _

/-- The exponent of a numeral passes no zero. -/
theorem passes_exponentPart {bytes rest : Bytes} {e : Option (Bool × List Nat)}
    (h : exponentPart bytes = some (e, rest)) : Passes bytes rest := by
  match bytes with
  | [] =>
    cases h
    exact .refl _
  | b :: after =>
    rw [exponentPart.eq_def] at h
    simp only at h
    split at h
    · rename_i hletter
      have hb : b ≠ 0 := by
        rcases hletter with rfl | rfl <;> decide
      cases after with
      | nil => cases h
      | cons s after =>
        simp only at h
        split at h
        · rename_i hsign
          obtain ⟨_, hdigits, hpair⟩ := Option.map_eq_some_iff.mp h
          cases hpair
          rw [hsign]
          exact .cons hb (.cons (by decide) (passes_someDigits hdigits))
        · split at h
          · rename_i hsign
            obtain ⟨_, hdigits, hpair⟩ := Option.map_eq_some_iff.mp h
            cases hpair
            rw [hsign]
            exact .cons hb (.cons (by decide) (passes_someDigits hdigits))
          · obtain ⟨_, hdigits, hpair⟩ := Option.map_eq_some_iff.mp h
            cases hpair
            exact .cons hb (passes_someDigits hdigits)
    · cases h
      exact .refl _

/-- A numeral behind its sign passes no zero. -/
theorem passes_unsignedNumeral {negative : Bool} {bytes rest : Bytes} {t : Numeral}
    (h : unsignedNumeral negative bytes = some (t, rest)) : Passes bytes rest := by
  simp only [unsignedNumeral, bind, Option.bind_eq_some_iff] at h
  obtain ⟨_, hwhole, _, hfraction, _, hexponent, hpair⟩ := h
  cases hpair
  exact (passes_wholePart hwhole).trans
    ((passes_fractionPart hfraction).trans (passes_exponentPart hexponent))

/-- A numeral passes no zero. -/
theorem passes_numeral {bytes rest : Bytes} {t : Numeral} (h : numeral bytes = some (t, rest)) :
    Passes bytes rest := by
  cases bytes with
  | nil => cases h
  | cons b after =>
    rw [numeral] at h
    split at h
    · rename_i hminus
      rw [hminus]
      exact .cons (by decide) (passes_unsignedNumeral h)
    · exact passes_unsignedNumeral h

/-! ## Values -/

/-- What is passed over, be it a value or the items up to a closing bracket. -/
theorem passes_skipValue_and_skipItems (fuel : Nat) :
    (∀ bytes rest, skipValue fuel bytes = some rest → Passes bytes rest) ∧
      ∀ keyed bytes rest, skipItems keyed fuel bytes = some rest → Passes bytes rest := by
  induction fuel with
  | zero => exact ⟨nofun, nofun⟩
  | succ fuel ih =>
    obtain ⟨hvalue, hitems⟩ := ih
    -- the empty array or object, and the one with items
    have hbracket (close : UInt8) (hclose : close ≠ 0) (keyed : Bool) (after rest : Bytes)
        (h : behindBlanks (fun c more =>
          if c = close then some more else skipItems keyed fuel after) after = some rest) :
        Passes after rest := by
      obtain ⟨c, more, hblanks, h⟩ := exists_of_behindBlanks h
      split at h
      · rename_i hc
        cases h
        exact passes_of_skipBlanks hblanks (by rw [hc]; exact hclose)
      · exact hitems keyed after rest h
    constructor
    · intro bytes rest h
      rw [skipValue] at h
      have hblanks := passes_skipBlanks bytes
      split at h
      · cases h
      · rename_i b after hb
        rw [hb] at hblanks
        apply hblanks.trans
        by_cases hnull : b = 0x6E
        · rw [if_pos hnull] at h
          exact .cons (by rw [hnull]; decide) (passes_expect (by decide) h)
        rw [if_neg hnull] at h
        by_cases htrue : b = 0x74
        · rw [if_pos htrue] at h
          exact .cons (by rw [htrue]; decide) (passes_expect (by decide) h)
        rw [if_neg htrue] at h
        by_cases hfalse : b = 0x66
        · rw [if_pos hfalse] at h
          exact .cons (by rw [hfalse]; decide) (passes_expect (by decide) h)
        rw [if_neg hfalse] at h
        by_cases hquote : b = 0x22
        · rw [if_pos hquote] at h
          exact .cons (by rw [hquote]; decide) (passes_skipString h)
        rw [if_neg hquote] at h
        by_cases harray : b = 0x5B
        · rw [if_pos harray] at h
          exact .cons (by rw [harray]; decide) (hbracket 0x5D (by decide) false after rest h)
        rw [if_neg harray] at h
        by_cases hobject : b = 0x7B
        · rw [if_pos hobject] at h
          exact .cons (by rw [hobject]; decide) (hbracket 0x7D (by decide) true after rest h)
        rw [if_neg hobject] at h
        obtain ⟨_, hnumeral, rfl⟩ := Option.map_eq_some_iff.mp h
        exact passes_numeral hnumeral
    · intro keyed bytes rest h
      -- an item, and what closes the bracket or separates the item from the next
      have hitem (close : UInt8) (hclose : close ≠ 0) (value : Bytes)
          (h : ((skipValue fuel value).bind (behindBlanks fun b more =>
            if b = 0x2C then skipItems keyed fuel more
            else if b = close then some more
            else none)) = some rest) : Passes value rest := by
        obtain ⟨after, hafter, h⟩ := Option.bind_eq_some_iff.mp h
        apply (hvalue value after hafter).trans
        obtain ⟨b, more, hblanks, h⟩ := exists_of_behindBlanks h
        split at h
        · rename_i hcomma
          exact (passes_of_skipBlanks hblanks (by rw [hcomma]; decide)).trans
            (hitems keyed more rest h)
        · split at h
          · rename_i hb
            cases h
            exact passes_of_skipBlanks hblanks (by rw [hb]; exact hclose)
          · cases h
      cases keyed with
      | false =>
        rw [skipItems] at h
        exact hitem 0x5D (by decide) bytes h
      | true =>
        rw [skipItems] at h
        obtain ⟨key, hquote, h⟩ := Option.bind_eq_some_iff.mp h
        obtain ⟨colon, hstring, h⟩ := Option.bind_eq_some_iff.mp h
        obtain ⟨value, htoken, h⟩ := Option.bind_eq_some_iff.mp h
        apply (passes_expectToken (by decide) hquote).trans
        apply (passes_skipString hstring).trans
        exact (passes_expectToken (by decide) htoken).trans (hitem 0x7D (by decide) value h)

/-- A value that is skipped passes no zero. -/
theorem passes_skip {bytes rest : Bytes} (h : skip bytes = some rest) : Passes bytes rest :=
  (passes_skipValue_and_skipItems _).1 bytes rest h

/-- A number passes no zero. -/
theorem passes_readNumber {bytes rest : Bytes} {n : Number}
    (h : readNumber bytes = some (n, rest)) : Passes bytes rest := by
  simp only [readNumber, bind, Option.bind_eq_some_iff] at h
  obtain ⟨_, hnumeral, _, -, hpair⟩ := h
  cases hpair
  exact (passes_skipBlanks bytes).trans (passes_numeral hnumeral)

/-- An integer passes no zero. -/
theorem passes_readInteger {bytes rest : Bytes} {n : Int64}
    (h : readInteger bytes = some (n, rest)) : Passes bytes rest := by
  simp only [readInteger, bind, Option.bind_eq_some_iff] at h
  obtain ⟨_, hnumber, _, -, hpair⟩ := h
  cases hpair
  exact passes_readNumber hnumber

/-- The rest of a list passes no zero. -/
theorem passes_readIntegers {fuel : Nat} {bytes rest : Bytes} {ns : List Int64}
    (h : readIntegers fuel bytes = some (ns, rest)) : Passes bytes rest := by
  induction fuel generalizing bytes ns with
  | zero => cases h
  | succ fuel ih =>
    simp only [readIntegers, bind, Option.bind_eq_some_iff] at h
    obtain ⟨⟨n, after⟩, hinteger, h⟩ := h
    apply (passes_readInteger hinteger).trans
    split at h
    · cases h
    · rename_i b more hblanks
      split at h
      · rename_i hcomma
        obtain ⟨_, hmore, hpair⟩ := Option.map_eq_some_iff.mp h
        cases hpair
        exact (passes_of_skipBlanks hblanks (by rw [hcomma]; decide)).trans (ih hmore)
      · split at h
        · rename_i hclose
          cases h
          exact passes_of_skipBlanks hblanks (by rw [hclose]; decide)
        · cases h

/-- A list passes no zero. -/
theorem passes_readList {bytes rest : Bytes} {ns : List Int64}
    (h : readList bytes = some (ns, rest)) : Passes bytes rest := by
  simp only [readList, bind, Option.bind_eq_some_iff] at h
  obtain ⟨after, hopen, h⟩ := h
  apply (passes_expectToken (by decide) hopen).trans
  split at h
  · cases h
  · rename_i b more hblanks
    split at h
    · rename_i hclose
      cases h
      exact passes_of_skipBlanks hblanks (by rw [hclose]; decide)
    · exact passes_readIntegers h

/-- The fields of a pair pass no zero. -/
theorem passes_readFields {firstName secondName : String} {fuel : Nat}
    {first second : Option String} {bytes rest : Bytes} {p : String × String}
    (h : readFields firstName secondName fuel first second bytes = some (p, rest)) :
    Passes bytes rest := by
  induction fuel generalizing first second bytes with
  | zero => cases h
  | succ fuel ih =>
    rw [readFields] at h
    obtain ⟨⟨key, after⟩, hkey, h⟩ := Option.bind_eq_some_iff.mp h
    obtain ⟨value, hcolon, h⟩ := Option.bind_eq_some_iff.mp h
    apply (passes_readText hkey).trans
    apply (passes_expectToken (by decide) hcolon).trans
    -- a field's value, and what closes the brace or separates the field from the next
    have hfield (field : Option (Option String × Option String × Bytes))
        (hvalue : ∀ first second behind, field = some (first, second, behind) →
          Passes value behind)
        (h : (field.bind fun found => behindBlanks (fun b more =>
          if b = 0x2C then readFields firstName secondName fuel found.1 found.2.1 more
          else if b = 0x7D then do
            let first ← found.1
            let second ← found.2.1
            pure ((first, second), more)
          else none) found.2.2) = some (p, rest)) : Passes value rest := by
      obtain ⟨⟨first, second, behind⟩, hfound, h⟩ := Option.bind_eq_some_iff.mp h
      apply (hvalue first second behind hfound).trans
      obtain ⟨b, more, hblanks, h⟩ := exists_of_behindBlanks h
      split at h
      · rename_i hcomma
        exact (passes_of_skipBlanks hblanks (by rw [hcomma]; decide)).trans (ih h)
      · split at h
        · rename_i hbrace
          obtain ⟨_, -, h⟩ := Option.bind_eq_some_iff.mp h
          obtain ⟨_, -, hpair⟩ := Option.bind_eq_some_iff.mp h
          cases hpair
          exact passes_of_skipBlanks hblanks (by rw [hbrace]; decide)
        · cases h
    simp only at h
    split at h
    · cases first with
      | some _ => cases h
      | none =>
        refine hfield _ (fun _ _ _ hfound => ?_) h
        obtain ⟨_, htext, hpair⟩ := Option.map_eq_some_iff.mp hfound
        cases hpair
        exact passes_readText htext
    · split at h
      · cases second with
        | some _ => cases h
        | none =>
          refine hfield _ (fun _ _ _ hfound => ?_) h
          obtain ⟨_, htext, hpair⟩ := Option.map_eq_some_iff.mp hfound
          cases hpair
          exact passes_readText htext
      · refine hfield _ (fun _ _ _ hfound => ?_) h
        obtain ⟨_, hskip, hpair⟩ := Option.map_eq_some_iff.mp hfound
        cases hpair
        exact passes_skip hskip

/-- A pair passes no zero. -/
theorem passes_readPair {firstName secondName : String} {bytes rest : Bytes} {p : String × String}
    (h : readPair firstName secondName bytes = some (p, rest)) : Passes bytes rest := by
  rw [readPair] at h
  split at h
  · cases h
  · rename_i b after hblanks
    split at h
    · rename_i hbrace
      exact (passes_of_skipBlanks hblanks (by rw [hbrace]; decide)).trans (passes_readFields h)
    · split at h
      · rename_i hbracket
        simp only [bind, Option.bind_eq_some_iff] at h
        obtain ⟨_, hfirst, _, hcomma, _, hsecond, _, hclose, hpair⟩ := h
        cases hpair
        apply (passes_of_skipBlanks hblanks (by rw [hbracket]; decide)).trans
        apply (passes_readText hfirst).trans
        apply (passes_expectToken (by decide) hcomma).trans
        exact (passes_readText hsecond).trans (passes_expectToken (by decide) hclose)
      · cases h

/-- A literal behind blanks. -/
theorem passes_literal {row bytes rest : Bytes} (hrow : (0 : UInt8) ∉ row)
    (h : expect row (skipBlanks bytes) = some rest) : Passes bytes rest :=
  (passes_skipBlanks bytes).trans (passes_expect hrow h)

/-- **A value of any type** passes no zero. -/
theorem passes_read (t : ObjectType) {bytes rest : Bytes} {v : t.Value}
    (h : read t bytes = some (v, rest)) : Passes bytes rest := by
  cases t with
  | customer | handle =>
    obtain ⟨_, hpair, hv⟩ := Option.map_eq_some_iff.mp h
    cases hv
    exact passes_readPair hpair
  | boolean =>
    simp only [read] at h
    split at h
    · rename_i hliteral
      cases h
      exact passes_literal (by decide) hliteral
    · obtain ⟨_, hliteral, hv⟩ := Option.map_eq_some_iff.mp h
      cases hv
      exact passes_literal (by decide) hliteral
  | integer => exact passes_readInteger h
  | natural =>
    simp only [read, bind, Option.bind_eq_some_iff] at h
    obtain ⟨_, hnumber, _, -, hv⟩ := h
    cases hv
    exact passes_readNumber hnumber
  | float =>
    obtain ⟨_, hnumber, hv⟩ := Option.map_eq_some_iff.mp h
    cases hv
    exact passes_readNumber hnumber
  | text => exact passes_readText h
  | integers => exact passes_readList h
  | optionalText =>
    simp only [read] at h
    split at h
    · rename_i hliteral
      cases h
      exact passes_literal (by decide) hliteral
    · obtain ⟨_, htext, hv⟩ := Option.map_eq_some_iff.mp h
      cases hv
      exact passes_readText htext

/-- **A JSON object holds no zero byte**, whatever its type. -/
theorem zero_not_mem_of_decode {t : ObjectType} {bytes : Bytes} {v : t.Value}
    (h : decode t bytes = some v) : (0 : UInt8) ∉ bytes := by
  simp only [decode, bind, Option.bind_eq_some_iff] at h
  obtain ⟨⟨_, rest⟩, hread, hend⟩ := h
  rw [Option.ite_none_right_eq_some] at hend
  have hblanks := passes_skipBlanks rest
  rw [List.isEmpty_iff.mp hend.1] at hblanks
  obtain ⟨passed, rfl, hpassed⟩ := (passes_read t hread).trans hblanks
  rw [List.append_nil]
  exact hpassed

end ActorBus.Json
