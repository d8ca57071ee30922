import ActorBus.Text.Utf8
import Mathlib.Data.List.Basic

/-!
# Reading back UTF-8

The bytes of a character are scanned as that character, wherever they stand: `scan_encodeChar`, with
one case for each width. Reading a written text is an induction over its characters by that lemma.

The width lemmas come first. A character's code point is no surrogate, and that is what keeps its
second byte within the narrowed bounds of `lead`.
-/

set_option autoImplicit false

namespace ActorBus.Utf8

/-- A code point is below the surrogates, or above them and in range. -/
theorem toNat_cases (c : Char) :
    c.toNat < 0xD800 ∨ (0xDFFF < c.toNat ∧ c.toNat < 0x110000) := by
  have h := c.valid
  simp only [UInt32.isValidChar, Nat.isValidChar] at h
  exact h

/-- Bounds on a byte that is given as a number. -/
theorem within_ofNat (low high : UInt8) (n : Nat) (hn : n < 256) (hlow : low.toNat ≤ n)
    (hhigh : n ≤ high.toNat) : within low high (UInt8.ofNat n) = true := by
  simp only [within, Bool.and_eq_true, decide_eq_true_eq, UInt8.le_iff_toNat_le,
    UInt8.toNat_ofNat', Nat.mod_eq_of_lt hn]
  exact ⟨hlow, hhigh⟩

/-- Six bits behind the mark of a later byte. -/
theorem isTail_ofNat (m : Nat) (hm : m < 64) : isTail (UInt8.ofNat (0x80 + m)) = true := by
  apply within_ofNat
  · omega
  · simp
  · show 0x80 + m ≤ 0xBF
    omega

/-- A later byte gives back its six bits. -/
theorem toNat_tail (m : Nat) (hm : m < 64) : (UInt8.ofNat (0x80 + m)).toNat % 64 = m := by
  rw [UInt8.toNat_ofNat']
  omega

/-- The first byte of two. -/
theorem lead_pair (n : Nat) (hlow : 0xC2 ≤ n) (hhigh : n < 0xE0) :
    lead (UInt8.ofNat n) = .pair := by
  have hn : (UInt8.ofNat n).toNat = n := by rw [UInt8.toNat_ofNat']; omega
  simp only [lead, UInt8.lt_iff_toNat_lt, hn, UInt8.reduceToNat]
  rw [if_neg (by omega), if_neg (by omega), if_pos (by omega)]

/-- The first byte of three. Its bounds let the second byte pass unless that makes a long form or a
surrogate. -/
theorem lead_triple (n m : Nat) (hlow : 0xE0 ≤ n) (hhigh : n < 0xF0) (hm : m < 64)
    (hlong : n = 0xE0 → 32 ≤ m) (hsurrogate : n = 0xED → m < 32) :
    ∃ low high, lead (UInt8.ofNat n) = .triple low high ∧
      within low high (UInt8.ofNat (0x80 + m)) = true := by
  have hn : (UInt8.ofNat n).toNat = n := by rw [UInt8.toNat_ofNat']; omega
  simp only [lead, UInt8.lt_iff_toNat_lt, ← UInt8.toNat_inj, hn, UInt8.reduceToNat]
  rw [if_neg (by omega), if_neg (by omega), if_neg (by omega)]
  split
  · next h => exact ⟨_, _, rfl, within_ofNat _ _ _ (by omega) (by simp; omega) (by simp; omega)⟩
  split
  · next h => exact ⟨_, _, rfl, within_ofNat _ _ _ (by omega) (by simp) (by simp; omega)⟩
  · exact ⟨_, _, rfl, within_ofNat _ _ _ (by omega) (by simp) (by simp; omega)⟩

/-- The first byte of four. Its bounds let the second byte pass unless that makes a long form or
goes beyond the last code point. -/
theorem lead_quad (n m : Nat) (hlow : 0xF0 ≤ n) (hhigh : n < 0xF5) (hm : m < 64)
    (hlong : n = 0xF0 → 16 ≤ m) (hlast : n = 0xF4 → m < 16) :
    ∃ low high, lead (UInt8.ofNat n) = .quad low high ∧
      within low high (UInt8.ofNat (0x80 + m)) = true := by
  have hn : (UInt8.ofNat n).toNat = n := by rw [UInt8.toNat_ofNat']; omega
  simp only [lead, UInt8.lt_iff_toNat_lt, ← UInt8.toNat_inj, hn, UInt8.reduceToNat]
  rw [if_neg (by omega), if_neg (by omega), if_neg (by omega), if_neg (by omega),
    if_neg (by omega), if_neg (by omega)]
  split
  · next h => exact ⟨_, _, rfl, within_ofNat _ _ _ (by omega) (by simp; omega) (by simp; omega)⟩
  split
  · next h => exact ⟨_, _, rfl, within_ofNat _ _ _ (by omega) (by simp) (by simp; omega)⟩
  · rw [if_pos (by omega)]
    exact ⟨_, _, rfl, within_ofNat _ _ _ (by omega) (by simp) (by simp; omega)⟩

/-- A byte that stands alone. -/
theorem scan_single (a : UInt8) (rest : Bytes) (ha : lead a = .single) :
    scan (a :: rest) = .char (assemble a.toNat []) :: scan rest := by
  rw [scan.eq_def]
  simp only [ha]

/-- Two bytes that belong together. -/
theorem scan_pair (a b : UInt8) (rest : Bytes) (ha : lead a = .pair) (hb : isTail b = true) :
    scan (a :: b :: rest) = .char (assemble (a.toNat % 32) [b]) :: scan rest := by
  rw [scan.eq_def]
  simp only [ha, hb, if_true]

/-- Three bytes that belong together. -/
theorem scan_triple (a b c low high : UInt8) (rest : Bytes) (ha : lead a = .triple low high)
    (hb : within low high b = true) (hc : isTail c = true) :
    scan (a :: b :: c :: rest) = .char (assemble (a.toNat % 16) [b, c]) :: scan rest := by
  rw [scan.eq_def]
  simp only [ha, hb, hc, if_true]

/-- Four bytes that belong together. -/
theorem scan_quad (a b c d low high : UInt8) (rest : Bytes) (ha : lead a = .quad low high)
    (hb : within low high b = true) (hc : isTail c = true) (hd : isTail d = true) :
    scan (a :: b :: c :: d :: rest) = .char (assemble (a.toNat % 8) [b, c, d]) :: scan rest := by
  rw [scan.eq_def]
  simp only [ha, hb, hc, hd, if_true]

/-- The later bytes of a character give back its lower bits, six each. -/
theorem assemble_eq (c : Char) (high : Nat) (ms : List Nat) (hms : ∀ m ∈ ms, m < 64)
    (h : ms.foldl (fun n m => n * 64 + m) high = c.toNat) :
    assemble high (ms.map fun m => UInt8.ofNat (0x80 + m)) = c := by
  rw [assemble, List.foldl_map, ← Char.ofNat_toNat c, ← h]
  congr 1
  exact List.foldl_ext _ _ _ fun n m hm => by rw [toNat_tail m (hms m hm)]

/-- The bytes of a character are scanned as the character, whatever follows them. -/
theorem scan_encodeChar (c : Char) (rest : Bytes) :
    scan (encodeChar c ++ rest) = .char c :: scan rest := by
  have hrange := toNat_cases c
  have hmod : ∀ n : Nat, n % 64 < 64 := fun n => Nat.mod_lt n (by omega)
  unfold encodeChar
  simp only
  split
  · next h =>
    have hn : (UInt8.ofNat c.toNat).toNat = c.toNat := by rw [UInt8.toNat_ofNat']; omega
    have hlead : lead (UInt8.ofNat c.toNat) = .single := by
      simp only [lead, UInt8.lt_iff_toNat_lt, hn, UInt8.reduceToNat, h, if_true]
    rw [List.singleton_append, scan_single _ _ hlead]
    exact congrArg (Piece.char · :: scan rest) (assemble_eq c _ [] (by simp) hn)
  split
  · next h =>
    have hfirst : (UInt8.ofNat (0xC0 + c.toNat / 64)).toNat % 32 = c.toNat / 64 := by
      rw [UInt8.toNat_ofNat']; omega
    rw [List.cons_append, List.singleton_append,
      scan_pair _ _ _ (lead_pair _ (by omega) (by omega)) (isTail_ofNat _ (hmod _)), hfirst]
    refine congrArg (Piece.char · :: scan rest) (assemble_eq c _ [c.toNat % 64] ?_ ?_)
    · simp [hmod]
    · simp only [List.foldl_cons, List.foldl_nil]
      omega
  split
  · next h =>
    have hfirst : (UInt8.ofNat (0xE0 + c.toNat / 4096)).toNat % 16 = c.toNat / 4096 := by
      rw [UInt8.toNat_ofNat']; omega
    obtain ⟨low, high, hlead, hsecond⟩ := lead_triple (0xE0 + c.toNat / 4096) (c.toNat / 64 % 64)
      (by omega) (by omega) (hmod _) (by omega) (by omega)
    simp only [List.cons_append, List.nil_append]
    rw [scan_triple _ _ _ low high _ hlead hsecond (isTail_ofNat _ (hmod _)), hfirst]
    refine congrArg (Piece.char · :: scan rest)
      (assemble_eq c _ [c.toNat / 64 % 64, c.toNat % 64] ?_ ?_)
    · simp [hmod]
    · simp only [List.foldl_cons, List.foldl_nil]
      omega
  · have hfirst : (UInt8.ofNat (0xF0 + c.toNat / 262144)).toNat % 8 = c.toNat / 262144 := by
      rw [UInt8.toNat_ofNat']; omega
    obtain ⟨low, high, hlead, hsecond⟩ := lead_quad (0xF0 + c.toNat / 262144)
      (c.toNat / 4096 % 64) (by omega) (by omega) (hmod _) (by omega) (by omega)
    simp only [List.cons_append, List.nil_append]
    rw [scan_quad _ _ _ _ low high _ hlead hsecond (isTail_ofNat _ (hmod _))
      (isTail_ofNat _ (hmod _)), hfirst]
    refine congrArg (Piece.char · :: scan rest)
      (assemble_eq c _ [c.toNat / 4096 % 64, c.toNat / 64 % 64, c.toNat % 64] ?_ ?_)
    · simp [hmod]
    · simp only [List.foldl_cons, List.foldl_nil]
      omega

/-- A written text is scanned as its characters. -/
theorem scan_encode (cs : List Char) : scan (encode cs) = cs.map .char := by
  induction cs with
  | nil => rfl
  | cons c cs ih => rw [encode, List.flatMap_cons, scan_encodeChar, ← encode, ih, List.map_cons]

/-- Where no piece is broken, all characters are gathered. -/
theorem gather_chars (index : Nat) (cs : List Char) : gather index (cs.map .char) = .ok cs := by
  induction cs generalizing index with
  | nil => rfl
  | cons c cs ih => rw [List.map_cons, gather, ih]; rfl

/-- **A text is read back** from its UTF-8 bytes. -/
theorem decode_encode (cs : List Char) : decode (encode cs) = .ok cs := by
  rw [decode, scan_encode, gather_chars]

/-! ## The bytes themselves -/

/-- The bytes of two texts in a row. -/
theorem encode_append (cs ds : List Char) : encode (cs ++ ds) = encode cs ++ encode ds :=
  List.flatMap_append

/-- The bytes of a text, first character first. -/
theorem encode_cons (c : Char) (cs : List Char) : encode (c :: cs) = encodeChar c ++ encode cs :=
  List.flatMap_cons

/-- An ASCII character is one byte. -/
theorem encodeChar_of_lt (c : Char) (h : c.toNat < 0x80) :
    encodeChar c = [UInt8.ofNat c.toNat] := by
  rw [encodeChar]
  simp only [h, if_true]

/-- A character beyond ASCII has no ASCII byte. -/
theorem le_of_mem_encodeChar (c : Char) (h : 0x80 ≤ c.toNat) (b : UInt8)
    (hb : b ∈ encodeChar c) : 0x80 ≤ b.toNat := by
  have hrange := toNat_cases c
  unfold encodeChar at hb
  simp only at hb
  rw [if_neg (by omega)] at hb
  split at hb
  · simp only [List.mem_cons, List.not_mem_nil, or_false] at hb
    rcases hb with rfl | rfl <;> rw [UInt8.toNat_ofNat'] <;> omega
  split at hb
  · simp only [List.mem_cons, List.not_mem_nil, or_false] at hb
    rcases hb with rfl | rfl | rfl <;> rw [UInt8.toNat_ofNat'] <;> omega
  · simp only [List.mem_cons, List.not_mem_nil, or_false] at hb
    rcases hb with rfl | rfl | rfl | rfl <;> rw [UInt8.toNat_ofNat'] <;> omega

end ActorBus.Utf8
