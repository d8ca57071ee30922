import ActorBus.Proofs.Json.Text
import ActorBus.Proofs.Text.Digits

/-!
# Reading back JSON integers

An integer is written as its decimal digits, which are ASCII, so `digits` finds exactly them. They
do not start with a zero that another digit follows (`toDigits_ne_zero_cons`), and they are taken in
without loss as long as the number has 64 bits (`absorb_eq`). What follows the numeral must not go
on with it.
-/

set_option autoImplicit false

namespace ActorBus.Json

/-- Bytes that do not go on with a numeral. -/
def EndsNumeral (rest : Bytes) : Prop :=
  ∀ b ∈ rest.head?, isDigit b = false ∧ b ≠ 0x2E ∧ b ≠ 0x65 ∧ b ≠ 0x45

/-- Decimal digits are one byte each. -/
theorem encode_of_isDigit (cs : List Char) (hcs : ∀ c ∈ cs, c.isDigit = true) :
    Utf8.encode cs = cs.map fun c => UInt8.ofNat c.toNat := by
  induction cs with
  | nil => rfl
  | cons c cs ih =>
    have hc := toNat_of_isDigit c (hcs c List.mem_cons_self)
    rw [Utf8.encode_cons, Utf8.encodeChar_of_lt c (by omega),
      ih fun d hd => hcs d (List.mem_cons_of_mem c hd)]
    rfl

/-- The byte of a decimal digit is one. -/
theorem isDigit_ofNat (c : Char) (hc : c.isDigit = true) :
    isDigit (UInt8.ofNat c.toNat) = true := by
  have h := toNat_of_isDigit c hc
  simp only [isDigit, Bool.and_eq_true, decide_eq_true_eq, UInt8.le_iff_toNat_le,
    UInt8.toNat_ofNat', UInt8.reduceToNat]
  omega

/-- The digits of a numeral are found, and what ends it is left. -/
theorem digits_encode (cs : List Char) (rest : Bytes) (hcs : ∀ c ∈ cs, c.isDigit = true)
    (hrest : EndsNumeral rest) :
    digits (Utf8.encode cs ++ rest) = (cs.map fun c => c.toNat - 48, rest) := by
  have hall : ∀ b ∈ Utf8.encode cs, isDigit b = true := by
    rw [encode_of_isDigit cs hcs]
    intro b hb
    obtain ⟨c, hc, rfl⟩ := List.mem_map.mp hb
    exact isDigit_ofNat c (hcs c hc)
  have hstop : rest.takeWhile isDigit = [] ∧ rest.dropWhile isDigit = rest := by
    cases rest with
    | nil => exact ⟨rfl, rfl⟩
    | cons b rest =>
      have hb := (hrest b rfl).1
      simp [hb]
  rw [digits, List.takeWhile_append_of_pos hall, List.dropWhile_append_of_pos hall, hstop.1,
    hstop.2, List.append_nil, encode_of_isDigit cs hcs, List.map_map]
  congr 1
  apply List.map_congr_left
  intro c hc
  have h := toNat_of_isDigit c (hcs c hc)
  simp only [Function.comp_apply, digitValue, UInt8.toNat_ofNat']
  omega

/-- Digits are taken in without loss while the number has 64 bits. -/
theorem absorb_eq (n : Nat) (ds : List Nat)
    (h : ds.foldl (fun n d => n * 10 + d) n < UInt64.size) :
    absorb n ds = (ds.foldl (fun n d => n * 10 + d) n, 0) := by
  have hmono : ∀ (ds : List Nat) (n : Nat), n ≤ ds.foldl (fun n d => n * 10 + d) n := by
    intro ds
    induction ds with
    | nil => exact fun n => Nat.le_refl n
    | cons d ds ih =>
      intro n
      have := ih (n * 10 + d)
      rw [List.foldl_cons]
      omega
  induction ds generalizing n with
  | nil => rfl
  | cons d ds ih =>
    rw [List.foldl_cons] at h ⊢
    have := hmono ds (n * 10 + d)
    rw [absorb, if_pos (by omega), ih _ h]

/-- The digits that write a number are taken in as it. -/
theorem absorb_toDigits (n : Nat) (hn : n < UInt64.size) :
    absorb 0 ((Nat.toDigits 10 n).map fun c => c.toNat - 48) = (n, 0) := by
  have hfold : ((Nat.toDigits 10 n).map fun c => c.toNat - 48).foldl (fun n d => n * 10 + d) 0 =
      n := by
    calc ((Nat.toDigits 10 n).map fun c => c.toNat - 48).foldl (fun n d => n * 10 + d) 0
      _ = Nat.ofDigitChars 10 (Nat.toDigits 10 n) 0 := by
        rw [List.foldl_map, foldl_digits_eq]
      _ = n := Nat.ofDigitChars_ten_toDigits
  rw [absorb_eq 0 _ (by rw [hfold]; exact hn), hfold]

/-! ## Numerals -/

/-- The decimal digits of a number are read as a numeral without fraction and exponent. -/
theorem unsignedNumeral_toDigits (negative : Bool) (n : Nat) (rest : Bytes)
    (hrest : EndsNumeral rest) :
    unsignedNumeral negative (Utf8.encode (Nat.toDigits 10 n) ++ rest) =
      some (⟨negative, (Nat.toDigits 10 n).map fun c => c.toNat - 48, none, none⟩, rest) := by
  have hwhole : wholePart (Utf8.encode (Nat.toDigits 10 n) ++ rest) =
      some ((Nat.toDigits 10 n).map fun c => c.toNat - 48, rest) := by
    have hdigits := isDigit_of_mem_toDigits n
    rw [wholePart, digits_encode _ _ hdigits hrest]
    cases hds : Nat.toDigits 10 n with
    | nil => exact absurd hds Nat.toDigits_ne_nil
    | cons d ds =>
      split
      · next h => simp at h
      · next h =>
        exfalso
        simp only [List.map_cons, Prod.mk.injEq, List.cons.injEq] at h
        obtain ⟨⟨hzero, hmap⟩, -⟩ := h
        have hd := toNat_of_isDigit d (hdigits d (by rw [hds]; exact List.mem_cons_self))
        have hchar : d = '0' := Char.toNat_inj.mp (show d.toNat = 48 by omega)
        rw [toDigits_ne_zero_cons n ds (by rw [hds, hchar])] at hmap
        cases hmap
      · rfl
  have hfraction : fractionPart rest = some (none, rest) := by
    cases rest with
    | nil => rfl
    | cons b rest => rw [fractionPart, if_neg (hrest b rfl).2.1]
  have hexponent : exponentPart rest = some (none, rest) := by
    cases rest with
    | nil => rfl
    | cons b rest =>
      rw [exponentPart.eq_def]
      simp only [if_neg (not_or.mpr ⟨(hrest b rfl).2.2.1, (hrest b rfl).2.2.2⟩)]
  simp only [unsignedNumeral, hwhole, hfraction, hexponent, bind, Option.bind_some]
  rfl

/-- A minus sign and a digit are no blanks. -/
theorem isBlank_eq_false_of_isDigit (b : UInt8) (h : isDigit b = true) :
    isBlank b = false ∧ b ≠ 0x2D := by
  simp only [isDigit, Bool.and_eq_true, decide_eq_true_eq, UInt8.le_iff_toNat_le,
    UInt8.reduceToNat] at h
  simp only [isBlank, Bool.or_eq_false_iff, decide_eq_false_iff_not, ne_eq, ← UInt8.toNat_inj,
    UInt8.reduceToNat]
  omega

/-- The first byte of a written number is a digit. -/
theorem exists_encode_toDigits (n : Nat) :
    ∃ b bytes, Utf8.encode (Nat.toDigits 10 n) = b :: bytes ∧ isDigit b = true := by
  have hdigits := isDigit_of_mem_toDigits n
  rw [encode_of_isDigit _ hdigits]
  cases hds : Nat.toDigits 10 n with
  | nil => exact absurd hds Nat.toDigits_ne_nil
  | cons d ds =>
    exact ⟨_, _, rfl, isDigit_ofNat d (hdigits d (by rw [hds]; exact List.mem_cons_self))⟩

/-- A number of 64 bits is read back. -/
theorem readNumber_toDigits (n : Nat) (rest : Bytes) (hn : n < UInt64.size)
    (hrest : EndsNumeral rest) :
    readNumber (Utf8.encode (Nat.toDigits 10 n) ++ rest) = some (.natural n, rest) := by
  obtain ⟨b, bytes, hbytes, hb⟩ := exists_encode_toDigits n
  obtain ⟨hblank, hminus⟩ := isBlank_eq_false_of_isDigit b hb
  have hnumeral : numeral (Utf8.encode (Nat.toDigits 10 n) ++ rest) =
      some (⟨false, (Nat.toDigits 10 n).map fun c => c.toNat - 48, none, none⟩, rest) := by
    rw [← unsignedNumeral_toDigits false n rest hrest, hbytes, List.cons_append, numeral,
      if_neg hminus]
  have hskip : skipBlanks (Utf8.encode (Nat.toDigits 10 n) ++ rest) =
      Utf8.encode (Nat.toDigits 10 n) ++ rest := by
    rw [hbytes, List.cons_append, skipBlanks_cons b _ hblank]
  simp only [readNumber, hskip, hnumeral, Numeral.value, absorb_toDigits n hn, bind,
    Option.bind_some]
  rfl

/-- A number below zero of 64 signed bits is read back from behind its minus sign. -/
theorem readNumber_minus_toDigits (n : Nat) (rest : Bytes) (hpos : 0 < n)
    (hn : n ≤ 9223372036854775808) (hrest : EndsNumeral rest) :
    readNumber (0x2D :: (Utf8.encode (Nat.toDigits 10 n) ++ rest)) =
      some (.negative n, rest) := by
  have hnumeral : numeral (0x2D :: (Utf8.encode (Nat.toDigits 10 n) ++ rest)) =
      some (⟨true, (Nat.toDigits 10 n).map fun c => c.toNat - 48, none, none⟩, rest) := by
    rw [← unsignedNumeral_toDigits true n rest hrest, numeral, if_pos rfl]
  have hsize : n < UInt64.size := Nat.lt_of_le_of_lt hn (by decide)
  have hsigned : 0 < n ∧ IsSigned64 (-n) := by
    refine ⟨hpos, ?_, ?_⟩ <;> omega
  simp only [readNumber, skipBlanks_cons 0x2D _ (by decide), hnumeral, Numeral.value,
    absorb_toDigits n hsize, bind, Option.bind_some, if_pos hsigned]
  rfl

/-- **A signed integer is read back**, and what ends its numeral is left. -/
theorem readInteger_writeInt (n : Int64) (rest : Bytes) (hrest : EndsNumeral rest) :
    readInteger (Utf8.encode (writeInt n.toInt) ++ rest) = some (n, rest) := by
  have hlow := n.le_toInt
  have hhigh := n.toInt_lt
  rw [writeInt, readInteger]
  split
  · next hneg =>
    have hback : -((n.toInt.natAbs : Nat) : Int) = n.toInt := by omega
    have hbytes : Utf8.encode ('-' :: Nat.toDigits 10 n.toInt.natAbs) =
        0x2D :: Utf8.encode (Nat.toDigits 10 n.toInt.natAbs) := rfl
    rw [hbytes, List.cons_append, readNumber_minus_toDigits _ _ (by omega) (by omega) hrest]
    simp only [bind, Option.bind_some, Number.toInt64?, hback, Int64.ofInt_toInt]
    rfl
  · next hnonneg =>
    have hback : ((n.toInt.natAbs : Nat) : Int) = n.toInt := by omega
    have hsigned : IsSigned64 n.toInt := by
      refine ⟨?_, ?_⟩ <;> omega
    have hsize : n.toInt.natAbs < UInt64.size :=
      Nat.lt_of_lt_of_le (show n.toInt.natAbs < 9223372036854775808 by omega) (by decide)
    rw [readNumber_toDigits _ _ hsize hrest]
    simp only [bind, Option.bind_some, Number.toInt64?, ← Int64.ofInt_eq_ofNat, hback,
      Int64.ofInt_toInt, if_pos hsigned]
    rfl

end ActorBus.Json
