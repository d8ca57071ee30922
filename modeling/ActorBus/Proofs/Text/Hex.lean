import ActorBus.Proofs.Text.Case
import ActorBus.Text.Hex
import Mathlib.Tactic.SplitIfs

/-!
# Reading hexadecimal text

A text is read as bytes exactly when its lower-case form is the rendering of those bytes
(`decode_eq_ok_iff`). Everything about accepted texts follows from this one equivalence; the two
errors are told apart by what the reader looks at first.
-/

set_option autoImplicit false

namespace ActorBus.Hex

/-- A hexadecimal digit of either case. -/
def IsDigit (c : Char) : Prop :=
  ('0' ≤ c ∧ c ≤ '9') ∨ ('a' ≤ c ∧ c ≤ 'f') ∨ ('A' ≤ c ∧ c ≤ 'F')

instance : DecidablePred IsDigit := fun _ => inferInstanceAs (Decidable (_ ∨ _))

/-- A byte list in upper-case digits. -/
def renderUpper (bytes : Bytes) : List Char := (render bytes).map Char.toUpper

/-! ## One digit -/

/-- The hexadecimal digits by their codes. -/
theorem isDigit_iff (c : Char) :
    IsDigit c ↔ (48 ≤ c.toNat ∧ c.toNat ≤ 57) ∨ (97 ≤ c.toNat ∧ c.toNat ≤ 102) ∨
      (65 ≤ c.toNat ∧ c.toNat ≤ 70) := by
  simp only [IsDigit, Char.le_def, UInt32.le_iff_toNat_le, Char.toNat, Char.reduceVal,
    UInt32.reduceToNat]

/-- The code of the digit of a number below sixteen. -/
theorem toNat_digit : ∀ n < 16, (digit n).toNat = if n < 10 then 48 + n else 87 + n := by decide

/-- A character has a value exactly when its lower-case form is the digit of that value. -/
theorem nibble_eq_some_iff {c : Char} {n : Nat} :
    nibble c = some n ↔ n < 16 ∧ c.toLower = digit n := by
  rw [← Char.toNat_inj, toNat_toLower]
  constructor
  · intro h
    unfold nibble at h
    simp only at h
    have hn : n < 16 := by split_ifs at h <;> cases h <;> omega
    rw [toNat_digit n hn]
    refine ⟨hn, ?_⟩
    split_ifs at h ⊢ <;> cases h <;> omega
  · rintro ⟨hn, h⟩
    rw [toNat_digit n hn] at h
    unfold nibble
    simp only
    split_ifs at h ⊢ <;> first | (rw [Option.some.injEq]; omega) | omega

/-- The characters that stand for a number are the digits. -/
theorem exists_nibble_iff {c : Char} : (∃ n, nibble c = some n) ↔ IsDigit c := by
  rw [isDigit_iff]
  unfold nibble
  simp only
  split_ifs <;> simp <;> omega

/-- A digit in either case has the digit for its lower-case form. -/
theorem toLower_digit :
    ∀ n < 16, (digit n).toLower = digit n ∧ (digit n).toUpper.toLower = digit n := by decide

/-- What is a digit in lower case is one. -/
theorem isDigit_of_toLower {c : Char} {n : Nat} (hn : n < 16) (hc : c.toLower = digit n) :
    IsDigit c :=
  exists_nibble_iff.mp ⟨n, nibble_eq_some_iff.mpr ⟨hn, hc⟩⟩

/-- Digits are characters below the limit of ASCII. -/
theorem toNat_lt_of_isDigit {c : Char} (h : IsDigit c) : c.toNat < 128 := by
  rw [isDigit_iff] at h
  omega

/-! ## Pairs of digits -/

/-- The two halves of a byte are the values of digits. -/
theorem halves_lt (b : UInt8) : b.toNat / 16 < 16 ∧ b.toNat % 16 < 16 := by
  have hb : b.toNat < 256 := b.toNat_lt
  omega

/-- A byte is made up of its halves. -/
theorem ofNat_halves (b : UInt8) : UInt8.ofNat (b.toNat / 16 * 16 + b.toNat % 16) = b := by
  rw [Nat.div_add_mod' b.toNat 16, UInt8.ofNat_toNat]

/-- The halves of a byte are the numbers that it was made of. -/
theorem halves_ofNat {high low : Nat} (hhigh : high < 16) (hlow : low < 16) :
    (UInt8.ofNat (high * 16 + low)).toNat / 16 = high ∧
      (UInt8.ofNat (high * 16 + low)).toNat % 16 = low := by
  have hbyte : (UInt8.ofNat (high * 16 + low)).toNat = high * 16 + low := by
    rw [UInt8.toNat_ofNat']
    exact Nat.mod_eq_of_lt (by omega)
  rw [hbyte]
  omega

/-- The first byte is rendered first, as two digits. -/
theorem render_cons (b : UInt8) (bytes : Bytes) :
    render (b :: bytes) = digit (b.toNat / 16) :: digit (b.toNat % 16) :: render bytes := rfl

/-- Every byte is rendered as two digits. -/
theorem length_render (bytes : Bytes) : (render bytes).length = 2 * bytes.length := by
  induction bytes with
  | nil => rfl
  | cons b bytes ih =>
    rw [render_cons, List.length_cons, List.length_cons, List.length_cons, ih]
    omega

/-- The characters of a rendering are digits, and so are those of any text that has it for its
lower-case form. -/
theorem isDigit_of_map_toLower {cs : List Char} {bytes : Bytes}
    (h : cs.map Char.toLower = render bytes) : ∀ c ∈ cs, IsDigit c := by
  intro c hc
  have hmem : c.toLower ∈ render bytes := h ▸ List.mem_map_of_mem hc
  obtain ⟨b, -, hb⟩ := List.mem_flatMap.mp hmem
  obtain ⟨hhigh, hlow⟩ := halves_lt b
  simp only [List.mem_cons, List.not_mem_nil, or_false] at hb
  rcases hb with hb | hb
  · exact isDigit_of_toLower hhigh hb
  · exact isDigit_of_toLower hlow hb

/-- Digits are read two by two exactly from the texts that the bytes are rendered as. -/
theorem pairs_eq_some_iff {cs : List Char} {bytes : Bytes} :
    pairs cs = some bytes ↔ cs.map Char.toLower = render bytes := by
  induction cs using pairs.induct generalizing bytes with
  | case1 => cases bytes <;> simp [pairs, render]
  | case2 c => cases bytes <;> simp [pairs, render]
  | case3 high low rest ih =>
    have hpairs : pairs (high :: low :: rest) = some bytes ↔
        ∃ h l bs, nibble high = some h ∧ nibble low = some l ∧ pairs rest = some bs ∧
          UInt8.ofNat (h * 16 + l) :: bs = bytes := by
      simp [pairs, Option.bind_eq_some_iff]
    simp only [hpairs, nibble_eq_some_iff, ih]
    constructor
    · rintro ⟨h, l, bs, ⟨hh, hhigh⟩, ⟨hl, hlow⟩, hrest, rfl⟩
      obtain ⟨hdiv, hmod⟩ := halves_ofNat hh hl
      rw [List.map_cons, List.map_cons, render_cons, hdiv, hmod, hhigh, hlow, hrest]
    · intro hmap
      cases bytes with
      | nil => cases hmap
      | cons b bs =>
        rw [List.map_cons, List.map_cons, render_cons, List.cons.injEq, List.cons.injEq] at hmap
        obtain ⟨hhigh, hlow, hrest⟩ := hmap
        obtain ⟨hh, hl⟩ := halves_lt b
        exact ⟨_, _, bs, ⟨hh, hhigh⟩, ⟨hl, hlow⟩, hrest, by rw [ofNat_halves]⟩

/-- Digits in pairs can always be read. -/
theorem exists_pairs {cs : List Char} (heven : cs.length % 2 = 0) (hdigits : ∀ c ∈ cs, IsDigit c) :
    ∃ bytes, pairs cs = some bytes := by
  induction cs using pairs.induct with
  | case1 => exact ⟨[], rfl⟩
  | case2 c => cases heven
  | case3 high low rest ih =>
    simp only [List.forall_mem_cons] at hdigits
    obtain ⟨hhigh, hlow, hrest⟩ := hdigits
    rw [List.length_cons, List.length_cons] at heven
    obtain ⟨h, hh⟩ := exists_nibble_iff.mpr hhigh
    obtain ⟨l, hl⟩ := exists_nibble_iff.mpr hlow
    obtain ⟨bytes, hbytes⟩ := ih (by omega) hrest
    exact ⟨UInt8.ofNat (h * 16 + l) :: bytes, by simp [pairs, hh, hl, hbytes]⟩

/-! ## A whole text -/

/-- A character beyond ASCII is found if there is one. -/
theorem any_not_ascii_iff (cs : List Char) :
    cs.any (fun c => 128 ≤ c.toNat) = true ↔ ∃ c ∈ cs, 128 ≤ c.toNat := by
  simp

/-- **A text is read exactly as the bytes that its lower-case form renders.** -/
theorem decode_eq_ok_iff {cs : List Char} {bytes : Bytes} :
    decode cs = .ok bytes ↔ cs.map Char.toLower = render bytes := by
  rw [← pairs_eq_some_iff]
  constructor
  · intro h
    unfold decode at h
    split_ifs at h
    split at h
    · next hpairs =>
      cases h
      exact hpairs
    · cases h
  · intro hpairs
    have hmap := pairs_eq_some_iff.mp hpairs
    have hascii : ¬ cs.any (fun c => 128 ≤ c.toNat) = true := by
      rw [any_not_ascii_iff]
      rintro ⟨c, hc, hlarge⟩
      have := toNat_lt_of_isDigit (isDigit_of_map_toLower hmap c hc)
      omega
    have heven : ¬ cs.length % 2 ≠ 0 := by
      have hlength := congrArg List.length hmap
      rw [List.length_map, length_render] at hlength
      omega
    rw [decode, if_neg hascii, if_neg heven, hpairs]

/-- The length is looked at before the digits, and only where all is ASCII. -/
theorem decode_eq_oddLength_iff {cs : List Char} :
    decode cs = .error .oddLength ↔ (∀ c ∈ cs, c.toNat < 128) ∧ cs.length % 2 = 1 := by
  have hascii : (∀ c ∈ cs, c.toNat < 128) ↔ ¬ cs.any (fun c => 128 ≤ c.toNat) = true := by
    rw [any_not_ascii_iff]
    simp
  rw [hascii, decode]
  split_ifs with hlarge hodd
  · simp [hlarge]
  · exact iff_of_true rfl ⟨hlarge, by omega⟩
  · have heven : ¬ cs.length % 2 = 1 := by omega
    simp only [heven, and_false, iff_false]
    split <;> simp

/-- **What can be decoded** are digits, evenly many of them. -/
theorem exists_decode_iff {cs : List Char} :
    (∃ bytes, decode cs = .ok bytes) ↔ cs.length % 2 = 0 ∧ ∀ c ∈ cs, IsDigit c := by
  simp only [decode_eq_ok_iff]
  constructor
  · rintro ⟨bytes, hmap⟩
    have hlength := congrArg List.length hmap
    rw [List.length_map, length_render] at hlength
    exact ⟨by omega, isDigit_of_map_toLower hmap⟩
  · rintro ⟨heven, hdigits⟩
    obtain ⟨bytes, hpairs⟩ := exists_pairs heven hdigits
    exact ⟨bytes, pairs_eq_some_iff.mp hpairs⟩

/-- What is not read, and is not measured first, is no hexadecimal text. -/
theorem decode_eq_nonHex_iff {cs : List Char} :
    decode cs = .error .nonHex ↔
      (∃ c ∈ cs, 128 ≤ c.toNat) ∨ (cs.length % 2 = 0 ∧ ∃ c ∈ cs, ¬ IsDigit c) := by
  have hok := @exists_decode_iff cs
  have hodd := @decode_eq_oddLength_iff cs
  cases hdecode : decode cs with
  | ok bytes =>
    obtain ⟨-, hdigits⟩ := hok.mp ⟨bytes, hdecode⟩
    simp only [reduceCtorEq, false_iff, not_or, not_and, not_exists, Classical.not_not]
    refine ⟨fun c hc => ?_, fun _ => hdigits⟩
    have := toNat_lt_of_isDigit (hdigits c hc)
    omega
  | error fault =>
    have hnot : ¬ (cs.length % 2 = 0 ∧ ∀ c ∈ cs, IsDigit c) := by
      rw [← hok, hdecode]
      simp
    rw [hdecode] at hodd
    cases fault with
    | oddLength =>
      obtain ⟨hascii, hlength⟩ := hodd.mp rfl
      simp only [Except.error.injEq, reduceCtorEq, false_iff, not_or, not_and, not_exists,
        Nat.not_le]
      refine ⟨hascii, fun heven => ?_⟩
      omega
    | nonHex =>
      simp only [true_iff]
      refine Classical.byContradiction fun hneither => ?_
      simp only [not_or, not_exists, not_and, Nat.not_le, Classical.not_not] at hneither
      obtain ⟨hascii, hdigits⟩ := hneither
      by_cases heven : cs.length % 2 = 0
      · exact hnot ⟨heven, hdigits heven⟩
      · have := hodd.mpr ⟨hascii, by omega⟩
        cases this

/-- In lower case both renderings are the same. -/
theorem map_toLower_render (bytes : Bytes) :
    (render bytes).map Char.toLower = render bytes ∧
      (renderUpper bytes).map Char.toLower = render bytes := by
  unfold renderUpper
  induction bytes with
  | nil => exact ⟨rfl, rfl⟩
  | cons b bytes ih =>
    obtain ⟨hhigh, hlow⟩ := halves_lt b
    simp only [render_cons, List.map_cons, ih, toLower_digit _ hhigh, toLower_digit _ hlow,
      and_self]

/-- **Hexadecimal text is read and nothing else.** The texts that are read are those of an even
number of digits of either case; they have two digits for each byte, and their lower-case form is
the rendering of what is read. Renderings in either case are read back. An odd length is reported
for a text that is all ASCII, even where one of its characters is no digit; every other text is
reported as not hexadecimal, and so is any text with a character beyond ASCII, whatever its
length. -/
theorem decode_reads_exactly_digits (cs : List Char) :
    ((∃ bytes, decode cs = .ok bytes) ↔ cs.length % 2 = 0 ∧ ∀ c ∈ cs, IsDigit c) ∧
    (∀ bytes, decode cs = .ok bytes →
      cs.length = 2 * bytes.length ∧ render bytes = cs.map Char.toLower) ∧
    (∀ bytes, decode (render bytes) = .ok bytes ∧ decode (renderUpper bytes) = .ok bytes) ∧
    (decode cs = .error .oddLength ↔ (∀ c ∈ cs, c.toNat < 128) ∧ cs.length % 2 = 1) ∧
    (decode cs = .error .nonHex ↔
      (∃ c ∈ cs, 128 ≤ c.toNat) ∨ (cs.length % 2 = 0 ∧ ∃ c ∈ cs, ¬ IsDigit c)) := by
  refine ⟨exists_decode_iff, ?_, ?_, decode_eq_oddLength_iff, decode_eq_nonHex_iff⟩
  · intro bytes hdecode
    have hmap := decode_eq_ok_iff.mp hdecode
    have hlength := congrArg List.length hmap
    rw [List.length_map, length_render] at hlength
    exact ⟨hlength, hmap.symm⟩
  · intro bytes
    rw [decode_eq_ok_iff, decode_eq_ok_iff]
    exact map_toLower_render bytes

/-- A character that is no digit is not looked at in a text of odd length, and the length is not
looked at beside a character beyond ASCII. -/
example : decode ['z'] = .error .oddLength ∧ decode ['é'] = .error .nonHex ∧
    decode ['6', 'f', '4', 'B'] = .ok [0x6F, 0x4B] :=
  ⟨rfl, rfl, rfl⟩

end ActorBus.Hex
