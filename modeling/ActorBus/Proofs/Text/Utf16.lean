import ActorBus.Proofs.Text.Utf8
import ActorBus.Text.Utf16

/-!
# Reading back UTF-16

Two layers, read back one after the other: the bytes of units are those units
(`units_unitBytes`), and the units of characters are those characters (`ofUnits_encodeChar`). A
character beyond the first plane takes two surrogates, and no other character takes any.
-/

set_option autoImplicit false

namespace ActorBus.Utf16

/-- A unit is read back from its two bytes. -/
theorem units_unitBytes (us : List Nat) (hus : ∀ u ∈ us, u < 0x10000) :
    units (us.flatMap unitBytes) = some us := by
  induction us with
  | nil => rfl
  | cons u us ih =>
    have hu := hus u List.mem_cons_self
    have hlow : u % 256 % 2 ^ 8 + 256 * (u / 256 % 256 % 2 ^ 8) = u := by omega
    rw [List.flatMap_cons]
    simp only [unitBytes, littleEndian, List.cons_append, List.nil_append, units]
    rw [ih fun v hv => hus v (List.mem_cons_of_mem u hv)]
    simp only [UInt8.toNat_ofNat', hlow, Option.map_some]

/-- The units of a character are 16 bits wide. -/
theorem lt_of_mem_encodeChar (c : Char) (u : Nat) (hu : u ∈ encodeChar c) : u < 0x10000 := by
  have hrange := Utf8.toNat_cases c
  unfold encodeChar at hu
  simp only at hu
  split at hu
  · simp only [List.mem_singleton] at hu
    omega
  · simp only [List.mem_cons, List.not_mem_nil, or_false] at hu
    omega

/-- A character is read back from its units, whatever follows them. -/
theorem ofUnits_encodeChar (c : Char) (rest : List Nat) :
    ofUnits (encodeChar c ++ rest) = (ofUnits rest).map (c :: ·) := by
  have hrange := Utf8.toNat_cases c
  unfold encodeChar
  simp only
  split
  · next h =>
    have hhigh : isHighSurrogate c.toNat = false := by
      simp only [isHighSurrogate, Bool.and_eq_false_iff, decide_eq_false_iff_not]
      omega
    have hlow : isLowSurrogate c.toNat = false := by
      simp only [isLowSurrogate, Bool.and_eq_false_iff, decide_eq_false_iff_not]
      omega
    rw [List.singleton_append, ofUnits.eq_def]
    simp only [hhigh, hlow, Bool.false_eq_true, if_false, Char.ofNat_toNat]
  · next h =>
    have hhigh : isHighSurrogate (0xD800 + (c.toNat - 0x10000) / 0x400) = true := by
      simp only [isHighSurrogate, Bool.and_eq_true, decide_eq_true_eq]
      omega
    have hlow : isLowSurrogate (0xDC00 + (c.toNat - 0x10000) % 0x400) = true := by
      simp only [isLowSurrogate, Bool.and_eq_true, decide_eq_true_eq]
      omega
    have hpoint : 0x10000 + (0xD800 + (c.toNat - 0x10000) / 0x400 - 0xD800) * 0x400 +
        (0xDC00 + (c.toNat - 0x10000) % 0x400 - 0xDC00) = c.toNat := by
      omega
    rw [List.cons_append, List.singleton_append, ofUnits.eq_def]
    simp only [hhigh, hlow, if_true, hpoint, Char.ofNat_toNat]

/-- A text is read back from its units. -/
theorem ofUnits_flatMap_encodeChar (cs : List Char) :
    ofUnits (cs.flatMap encodeChar) = some cs := by
  induction cs with
  | nil => rfl
  | cons c cs ih => rw [List.flatMap_cons, ofUnits_encodeChar, ih, Option.map_some]

/-- **A text is read back** from its UTF-16 bytes. -/
theorem decode_encode (cs : List Char) : decode (encode cs) = .ok cs := by
  have hunits : units (encode cs) = some (cs.flatMap encodeChar) := by
    apply units_unitBytes
    intro u hu
    obtain ⟨c, -, hu⟩ := List.mem_flatMap.mp hu
    exact lt_of_mem_encodeChar c u hu
  simp only [decode, hunits, ofUnits_flatMap_encodeChar]

end ActorBus.Utf16
