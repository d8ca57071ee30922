import ActorBus.Proofs.Text.Utf16

/-!
# One spelling for each text

Bytes are read as a text only where they are the bytes that the text is written in:
`Utf8.decode_eq_ok_iff` and `Utf16.decode_eq_ok_iff`. So no long form of a short character, no
surrogate in UTF-8 and none that stands alone in UTF-16, and no byte too many is ever accepted.

A reader takes the first bytes (or units) for a character under bounds of its own. The lemmas for
each width turn these bounds around: within them, the character that is put together is written in
just the bytes it was put together from.
-/

set_option autoImplicit false

namespace ActorBus.Utf8

/-! ## The bytes of one character -/

/-- The bounds that `within` tests, on numbers. -/
theorem toNat_of_within {low high b : UInt8} (h : within low high b = true) :
    low.toNat ≤ b.toNat ∧ b.toNat ≤ high.toNat := by
  simpa [within, UInt8.le_iff_toNat_le] using h

/-- A later byte is the mark `0x80` and six bits. -/
theorem toNat_of_isTail {b : UInt8} (h : isTail b = true) : 0x80 ≤ b.toNat ∧ b.toNat ≤ 0xBF :=
  toNat_of_within h

/-- A byte that stands alone is an ASCII byte. -/
theorem toNat_of_lead_single {a : UInt8} (h : lead a = .single) : a.toNat < 0x80 := by
  unfold lead at h
  split at h
  · next ha => exact UInt8.lt_iff_toNat_lt.mp ha
  · split_ifs at h

/-- The bounds on the first byte of two. -/
theorem toNat_of_lead_pair {a : UInt8} (h : lead a = .pair) : 0xC2 ≤ a.toNat ∧ a.toNat < 0xE0 := by
  simp only [lead, UInt8.lt_iff_toNat_lt, ← UInt8.toNat_inj, UInt8.reduceToNat] at h
  split_ifs at h
  omega

/-- The bounds on the first two bytes of three: neither a long form nor a surrogate. -/
theorem toNat_of_lead_triple {a b low high : UInt8} (h : lead a = .triple low high)
    (hb : within low high b = true) :
    0xE0 ≤ a.toNat ∧ a.toNat < 0xF0 ∧ 0x80 ≤ b.toNat ∧ b.toNat ≤ 0xBF ∧
      (a.toNat = 0xE0 → 0xA0 ≤ b.toNat) ∧ (a.toNat = 0xED → b.toNat ≤ 0x9F) := by
  have hb := toNat_of_within hb
  simp only [lead, UInt8.lt_iff_toNat_lt, ← UInt8.toNat_inj, UInt8.reduceToNat] at h
  split_ifs at h <;> cases h <;> simp only [UInt8.reduceToNat] at hb <;> omega

/-- The bounds on the first two bytes of four: no long form, and nothing above the last code
point. -/
theorem toNat_of_lead_quad {a b low high : UInt8} (h : lead a = .quad low high)
    (hb : within low high b = true) :
    0xF0 ≤ a.toNat ∧ a.toNat < 0xF5 ∧ 0x80 ≤ b.toNat ∧ b.toNat ≤ 0xBF ∧
      (a.toNat = 0xF0 → 0x90 ≤ b.toNat) ∧ (a.toNat = 0xF4 → b.toNat ≤ 0x8F) := by
  have hb := toNat_of_within hb
  simp only [lead, UInt8.lt_iff_toNat_lt, ← UInt8.toNat_inj, UInt8.reduceToNat] at h
  split_ifs at h <;> cases h <;> simp only [UInt8.reduceToNat] at hb <;> omega

/-- The number of a character that is made of a valid code point. -/
theorem toNat_ofNat {n : Nat} (h : n < 0xD800 ∨ (0xDFFF < n ∧ n < 0x110000)) :
    (Char.ofNat n).toNat = n := by
  have hvalid : n.isValidChar := h
  rw [Char.ofNat, dif_pos hvalid]
  rfl

/-- A byte is the number that it stands for. -/
theorem ofNat_eq {n : Nat} {b : UInt8} (h : n = b.toNat) : UInt8.ofNat n = b := by
  rw [h, UInt8.ofNat_toNat]

/-- A byte that stands alone is all there is of its character. -/
theorem encodeChar_single {a : UInt8} (ha : lead a = .single) :
    encodeChar (assemble a.toNat []) = [a] := by
  have ha := toNat_of_lead_single ha
  have hn : (assemble a.toNat []).toNat = a.toNat :=
    toNat_ofNat (by simp only [List.foldl_nil]; omega)
  unfold encodeChar
  simp only [hn]
  rw [if_pos ha, UInt8.ofNat_toNat]

/-- Two bytes that belong together are the bytes of their character. -/
theorem encodeChar_pair {a b : UInt8} (ha : lead a = .pair) (hb : isTail b = true) :
    encodeChar (assemble (a.toNat % 32) [b]) = [a, b] := by
  have ha := toNat_of_lead_pair ha
  have hb := toNat_of_isTail hb
  have hn : (assemble (a.toNat % 32) [b]).toNat = a.toNat % 32 * 64 + b.toNat % 64 :=
    toNat_ofNat (by simp only [List.foldl_cons, List.foldl_nil]; omega)
  unfold encodeChar
  simp only [hn]
  rw [if_neg (by omega), if_pos (by omega), ofNat_eq (b := a) (by omega),
    ofNat_eq (b := b) (by omega)]

/-- Three bytes that belong together are the bytes of their character. -/
theorem encodeChar_triple {a b c low high : UInt8} (ha : lead a = .triple low high)
    (hb : within low high b = true) (hc : isTail c = true) :
    encodeChar (assemble (a.toNat % 16) [b, c]) = [a, b, c] := by
  have hab := toNat_of_lead_triple ha hb
  have hc := toNat_of_isTail hc
  have hn : (assemble (a.toNat % 16) [b, c]).toNat =
      (a.toNat % 16 * 64 + b.toNat % 64) * 64 + c.toNat % 64 :=
    toNat_ofNat (by simp only [List.foldl_cons, List.foldl_nil]; omega)
  unfold encodeChar
  simp only [hn]
  rw [if_neg (by omega), if_neg (by omega), if_pos (by omega), ofNat_eq (b := a) (by omega),
    ofNat_eq (b := b) (by omega), ofNat_eq (b := c) (by omega)]

/-- Four bytes that belong together are the bytes of their character. -/
theorem encodeChar_quad {a b c d low high : UInt8} (ha : lead a = .quad low high)
    (hb : within low high b = true) (hc : isTail c = true) (hd : isTail d = true) :
    encodeChar (assemble (a.toNat % 8) [b, c, d]) = [a, b, c, d] := by
  have hab := toNat_of_lead_quad ha hb
  have hc := toNat_of_isTail hc
  have hd := toNat_of_isTail hd
  have hn : (assemble (a.toNat % 8) [b, c, d]).toNat =
      ((a.toNat % 8 * 64 + b.toNat % 64) * 64 + c.toNat % 64) * 64 + d.toNat % 64 :=
    toNat_ofNat (by simp only [List.foldl_cons, List.foldl_nil]; omega)
  unfold encodeChar
  simp only [hn]
  rw [if_neg (by omega), if_neg (by omega), if_neg (by omega), ofNat_eq (b := a) (by omega),
    ofNat_eq (b := b) (by omega), ofNat_eq (b := c) (by omega), ofNat_eq (b := d) (by omega)]

/-! ## The bytes of a text -/

/-- Only a character's own bytes are scanned as that character. -/
theorem exists_append_of_scan {bytes : Bytes} {c : Char} {pieces : List Piece}
    (h : scan bytes = .char c :: pieces) :
    ∃ rest, bytes = encodeChar c ++ rest ∧ scan rest = pieces := by
  -- one case for each way through the scan; four of them yield a character
  fun_cases scan bytes
  case case2 a r ha =>
    rw [scan_single a r ha] at h
    cases h
    exact ⟨r, by rw [encodeChar_single ha, List.singleton_append], rfl⟩
  case case5 a ha b r hb =>
    rw [scan_pair a b r ha hb] at h
    cases h
    exact ⟨r, by rw [encodeChar_pair ha hb, List.cons_append, List.singleton_append], rfl⟩
  case case9 a low high ha b hb d r hd =>
    rw [scan_triple a b d low high r ha hb hd] at h
    cases h
    exact ⟨r, by rw [encodeChar_triple ha hb hd]; rfl, rfl⟩
  case case15 a low high ha b hb d hd e r he =>
    rw [scan_quad a b d e low high r ha hb hd he] at h
    cases h
    exact ⟨r, by rw [encodeChar_quad ha hb hd he]; rfl, rfl⟩
  all_goals
    rw [scan.eq_def] at h
    simp_all

/-- Every byte leaves a piece. -/
theorem eq_nil_of_scan {bytes : Bytes} (h : scan bytes = []) : bytes = [] := by
  fun_cases scan bytes
  case case1 => rfl
  all_goals
    rw [scan.eq_def] at h
    simp_all

/-- Characters are gathered only from pieces that are all whole. -/
theorem eq_map_of_gather {index : Nat} {pieces : List Piece} {cs : List Char}
    (h : gather index pieces = .ok cs) : pieces = cs.map .char := by
  induction pieces generalizing index cs with
  | nil => cases h; rfl
  | cons piece pieces ih =>
    cases piece with
    | char c =>
      rw [gather] at h
      cases hrest : gather (index + c.utf8Size) pieces with
      | error fault => rw [hrest] at h; cases h
      | ok ds =>
        rw [hrest] at h
        cases h
        rw [ih hrest, List.map_cons]
    | broken width => cases h
    | cutOff width => cases h

/-- Bytes that are scanned as characters are the bytes of those characters. -/
theorem encode_of_scan {bytes : Bytes} {cs : List Char} (h : scan bytes = cs.map .char) :
    bytes = encode cs := by
  induction cs generalizing bytes with
  | nil => exact eq_nil_of_scan h
  | cons c cs ih =>
    obtain ⟨rest, rfl, hrest⟩ := exists_append_of_scan h
    rw [ih hrest, encode_cons]

/-- **UTF-8 has one spelling for each text**: bytes are read as a text exactly when they are the
bytes of that text. -/
theorem decode_eq_ok_iff {bytes : Bytes} {cs : List Char} :
    decode bytes = .ok cs ↔ bytes = encode cs := by
  constructor
  · intro h
    exact encode_of_scan (eq_map_of_gather h)
  · rintro rfl
    exact decode_encode cs

/-- A text without replacement characters is what nothing but its bytes reads as, even where nothing
is refused. -/
theorem decodeLossy_eq_iff {bytes : Bytes} {cs : List Char} (hcs : '\uFFFD' ∉ cs) :
    decodeLossy bytes = cs ↔ bytes = encode cs := by
  constructor
  · rintro rfl
    apply encode_of_scan
    rw [decodeLossy, List.map_map]
    refine (List.map_id' _).symm.trans (List.map_congr_left fun piece hpiece => ?_)
    cases piece with
    | char c => rfl
    | broken width => exact absurd (List.mem_map.mpr ⟨_, hpiece, rfl⟩) hcs
    | cutOff width => exact absurd (List.mem_map.mpr ⟨_, hpiece, rfl⟩) hcs
  · rintro rfl
    rw [decodeLossy, scan_encode, List.map_map]
    exact List.map_id' cs

end ActorBus.Utf8

namespace ActorBus.Utf16

/-! ## Units, and characters of units -/

/-- A unit is two bytes, and it is these two. -/
theorem unitBytes_of_bytes (low high : UInt8) :
    unitBytes (low.toNat + 256 * high.toNat) = [low, high] := by
  have hlow := low.toNat_lt
  have hhigh := high.toNat_lt
  simp only [unitBytes, littleEndian]
  rw [Utf8.ofNat_eq (b := low) (by omega), Utf8.ofNat_eq (b := high) (by omega)]

/-- Bytes that are read as units are the bytes of those units, each 16 bits wide. -/
theorem eq_flatMap_of_units {bytes : Bytes} {us : List Nat} (h : units bytes = some us) :
    bytes = us.flatMap unitBytes ∧ ∀ u ∈ us, u < 0x10000 := by
  fun_induction units bytes generalizing us with
  | case1 => cases h; simp
  | case2 a => cases h
  | case3 low high rest ih =>
    obtain ⟨vs, hvs, rfl⟩ := Option.map_eq_some_iff.mp h
    obtain ⟨hbytes, hwidth⟩ := ih hvs
    have hlow := low.toNat_lt
    have hhigh := high.toNat_lt
    constructor
    · rw [List.flatMap_cons, unitBytes_of_bytes, ← hbytes]
      rfl
    · rw [List.forall_mem_cons]
      exact ⟨by omega, hwidth⟩

/-- A unit that is no surrogate is the one unit of its character. -/
theorem encodeChar_unit {u : Nat} (hu : u < 0x10000) (hhigh : isHighSurrogate u = false)
    (hlow : isLowSurrogate u = false) : encodeChar (Char.ofNat u) = [u] := by
  simp only [isHighSurrogate, isLowSurrogate, Bool.and_eq_false_iff, decide_eq_false_iff_not]
    at hhigh hlow
  have hn : (Char.ofNat u).toNat = u := Utf8.toNat_ofNat (by omega)
  unfold encodeChar
  simp only [hn]
  rw [if_pos hu]

/-- A high surrogate and the low one behind it are the two units of their character. -/
theorem encodeChar_surrogates {u v : Nat} (hu : isHighSurrogate u = true)
    (hv : isLowSurrogate v = true) :
    encodeChar (Char.ofNat (0x10000 + (u - 0xD800) * 0x400 + (v - 0xDC00))) = [u, v] := by
  simp only [isHighSurrogate, isLowSurrogate, Bool.and_eq_true, decide_eq_true_eq] at hu hv
  have hn : (Char.ofNat (0x10000 + (u - 0xD800) * 0x400 + (v - 0xDC00))).toNat =
      0x10000 + (u - 0xD800) * 0x400 + (v - 0xDC00) := Utf8.toNat_ofNat (by omega)
  unfold encodeChar
  simp only [hn]
  have hfirst :
      0xD800 + (0x10000 + (u - 0xD800) * 0x400 + (v - 0xDC00) - 0x10000) / 0x400 = u := by
    omega
  have hsecond :
      0xDC00 + (0x10000 + (u - 0xD800) * 0x400 + (v - 0xDC00) - 0x10000) % 0x400 = v := by
    omega
  rw [if_neg (by omega), hfirst, hsecond]

/-- Units that are read as characters are the units of those characters. -/
theorem eq_flatMap_of_ofUnits {us : List Nat} {cs : List Char} (hus : ∀ u ∈ us, u < 0x10000)
    (h : ofUnits us = some cs) : us = cs.flatMap encodeChar := by
  fun_induction ofUnits us generalizing cs with
  | case1 => cases h; rfl
  | case2 u hu v rest hv ih =>
    simp only [List.forall_mem_cons] at hus
    obtain ⟨ds, hds, rfl⟩ := Option.map_eq_some_iff.mp h
    rw [List.flatMap_cons, encodeChar_surrogates hu hv, ← ih hus.2.2 hds]
    rfl
  | case3 | case4 | case5 => cases h
  | case6 u rest hu hv ih =>
    simp only [List.forall_mem_cons] at hus
    obtain ⟨ds, hds, rfl⟩ := Option.map_eq_some_iff.mp h
    rw [List.flatMap_cons, encodeChar_unit hus.1 (Bool.eq_false_iff.mpr hu)
      (Bool.eq_false_iff.mpr hv), ← ih hus.2 hds]
    rfl

/-- **UTF-16 has one spelling for each text**: bytes are read as a text exactly when they are the
bytes of that text. -/
theorem decode_eq_ok_iff {bytes : Bytes} {cs : List Char} :
    decode bytes = .ok cs ↔ bytes = encode cs := by
  constructor
  · intro h
    unfold decode at h
    split at h
    · cases h
    · next us hus =>
      split at h
      · cases h
      · next ds hds =>
        cases h
        obtain ⟨hbytes, hwidth⟩ := eq_flatMap_of_units hus
        rw [encode, ← eq_flatMap_of_ofUnits hwidth hds, hbytes]
  · rintro rfl
    exact decode_encode cs

end ActorBus.Utf16
