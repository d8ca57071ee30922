import ActorBus.Json.Object
import ActorBus.Proofs.Text.Utf8

/-!
# Reading back JSON strings

Writing works on characters and reading on bytes, so the two meet at the bytes of one escaped
character: `stringBody_escape` says that reading them gives the bytes of the character itself. There
are three ways to write a character, by a letter, by its number, and as it is, and one lemma for
each. A string literal is read back by induction over its characters.
-/

set_option autoImplicit false

namespace ActorBus.Json

/-- Reading a character written by a letter. -/
theorem stringBody_letter (e y : UInt8) (bytes : Bytes) (he : letterEscape e = some y)
    (hu : e ≠ 0x75) :
    stringBody (0x5C :: e :: bytes) = (stringBody bytes).map fun p => (y :: p.1, p.2) := by
  rw [stringBody.eq_def]
  simp [he, hu]

/-- Reading a character written by its number, unless that is a surrogate. -/
theorem stringBody_number (a b c d : UInt8) (u : Nat) (bytes : Bytes)
    (hquad : hexQuad a b c d = some u) (hu : u < 0xD800) :
    stringBody (0x5C :: 0x75 :: a :: b :: c :: d :: bytes) =
      (stringBody bytes).map fun p => (Utf8.encodeChar (Char.ofNat u) ++ p.1, p.2) := by
  have hlow : Utf16.isLowSurrogate u = false := by
    simp only [Utf16.isLowSurrogate, Bool.and_eq_false_iff, decide_eq_false_iff_not]
    omega
  have hhigh : Utf16.isHighSurrogate u = false := by
    simp only [Utf16.isHighSurrogate, Bool.and_eq_false_iff, decide_eq_false_iff_not]
    omega
  rw [stringBody.eq_def]
  simp [hquad, hlow, hhigh]

/-- A byte that stands for itself inside a string. -/
def IsPlain (b : UInt8) : Prop := 0x20 ≤ b.toNat ∧ b.toNat ≠ 0x22 ∧ b.toNat ≠ 0x5C

/-- Reading bytes that stand for themselves. -/
theorem stringBody_plain (raw bytes : Bytes) (hraw : ∀ b ∈ raw, IsPlain b) :
    stringBody (raw ++ bytes) = (stringBody bytes).map fun p => (raw ++ p.1, p.2) := by
  induction raw with
  | nil => simp
  | cons x raw ih =>
    obtain ⟨hspace, hquote, hslash⟩ := hraw x List.mem_cons_self
    rw [List.cons_append, stringBody.eq_def]
    simp only [← UInt8.toNat_inj, UInt8.lt_iff_toNat_lt, UInt8.reduceToNat, hquote, hslash,
      if_false, Nat.not_lt.mpr hspace, ih fun b hb => hraw b (List.mem_cons_of_mem x hb),
      Option.map_map]
    rfl

/-- Control characters are written by letters or by two hexadecimal digits. -/
theorem hexQuad_control : ∀ n < 0x20,
    Utf8.encode ['\\', 'u', '0', '0', Hex.digit (n / 16), Hex.digit (n % 16)] =
      [0x5C, 0x75, 0x30, 0x30, asciiByte (Hex.digit (n / 16)), asciiByte (Hex.digit (n % 16))] ∧
    hexQuad 0x30 0x30 (asciiByte (Hex.digit (n / 16))) (asciiByte (Hex.digit (n % 16))) =
      some n := by
  decide

/-- The bytes of a character that is written as it is stand for themselves. -/
theorem isPlain_of_mem_encodeChar (c : Char) (hspace : 0x20 ≤ c.toNat) (hquote : c ≠ '"')
    (hslash : c ≠ '\\') (b : UInt8) (hb : b ∈ Utf8.encodeChar c) : IsPlain b := by
  by_cases hascii : c.toNat < 0x80
  · rw [Utf8.encodeChar_of_lt c hascii, List.mem_singleton] at hb
    have htoNat : b.toNat = c.toNat := by
      rw [hb, UInt8.toNat_ofNat']
      omega
    rw [IsPlain, htoNat]
    refine ⟨hspace, ?_, ?_⟩
    · intro h
      exact hquote (Char.toNat_inj.mp h)
    · intro h
      exact hslash (Char.toNat_inj.mp h)
  · have := Utf8.le_of_mem_encodeChar c (by omega) b hb
    rw [IsPlain]
    omega

/-- **An escaped character is read back**, whatever follows it. -/
theorem stringBody_escape (c : Char) (bytes : Bytes) :
    stringBody (Utf8.encode (escape c) ++ bytes) =
      (stringBody bytes).map fun p => (Utf8.encodeChar c ++ p.1, p.2) := by
  unfold escape
  split
  case h_8 hquote hslash _ _ _ _ _ =>
    split
    · next hcontrol =>
      obtain ⟨hbytes, hquad⟩ := hexQuad_control c.toNat hcontrol
      rw [hbytes]
      simp only [List.cons_append, List.nil_append]
      rw [stringBody_number _ _ _ _ _ _ hquad (by omega), Char.ofNat_toNat]
    · next hspace =>
      rw [Utf8.encode, List.flatMap_singleton]
      exact stringBody_plain _ _ fun b hb =>
        isPlain_of_mem_encodeChar c (by omega) hquote hslash b hb
  all_goals exact stringBody_letter _ _ bytes (by decide) (by decide)

/-- The inside of a string literal is read back, up to its closing quote. -/
theorem stringBody_flatMap_escape (cs : List Char) (rest : Bytes) :
    stringBody (Utf8.encode (cs.flatMap escape) ++ 0x22 :: rest) = some (Utf8.encode cs, rest) := by
  induction cs with
  | nil =>
    show stringBody (0x22 :: rest) = some ([], rest)
    rw [stringBody.eq_def]
    rfl
  | cons c cs ih =>
    rw [List.flatMap_cons, Utf8.encode_append, List.append_assoc, stringBody_escape, ih,
      Utf8.encode_cons]
    rfl

/-- A byte that is no blank is not skipped. -/
theorem skipBlanks_cons (b : UInt8) (bytes : Bytes) (h : isBlank b = false) :
    skipBlanks (b :: bytes) = b :: bytes := by
  rw [skipBlanks, List.dropWhile_cons_of_neg (by simp [h])]

/-- A token that stands first is taken. -/
theorem expectToken_cons (x : UInt8) (bytes : Bytes) (h : isBlank x = false) :
    expectToken x (x :: bytes) = some bytes := by
  rw [expectToken, skipBlanks_cons x bytes h, expect, if_pos rfl, expect]

/-- The bytes of a string literal. -/
theorem encode_quote (s : String) :
    Utf8.encode (quote s) = 0x22 :: (Utf8.encode (s.toList.flatMap escape) ++ [0x22]) := by
  rw [quote, Utf8.encode_append, Utf8.encode_append]
  rfl

/-- **A string literal is read back** as its text, and what follows it is left. -/
theorem readText_quote (s : String) (rest : Bytes) :
    readText (Utf8.encode (quote s) ++ rest) = some (s, rest) := by
  rw [encode_quote, readText]
  simp only [List.cons_append, List.append_assoc, List.nil_append]
  rw [expectToken_cons _ _ (by decide), Option.bind_some, stringText, stringBody_flatMap_escape]
  simp [Utf8.decode_encode, String.ofList_toList]

/-! ## Records of two texts -/

/-- Reading the first field of a record, with another behind it. -/
theorem readFields_first (firstName secondName first : String) (fuel : Nat) (bytes : Bytes) :
    readFields firstName secondName (fuel + 1) none none
      (Utf8.encode (quote firstName) ++ 0x3A :: (Utf8.encode (quote first) ++ 0x2C :: bytes)) =
    readFields firstName secondName fuel (some first) none bytes := by
  rw [readFields]
  simp only [readText_quote, expectToken_cons 0x3A _ (by decide), bind, Option.bind_some, if_true,
    Option.map_some, skipBlanks_cons 0x2C _ (by decide)]

/-- Reading the second field of a record, with its end behind it. -/
theorem readFields_second (firstName secondName first second : String) (fuel : Nat)
    (rest : Bytes) (hne : secondName ≠ firstName) :
    readFields firstName secondName (fuel + 1) (some first) none
      (Utf8.encode (quote secondName) ++ 0x3A :: (Utf8.encode (quote second) ++ 0x7D :: rest)) =
    some ((first, second), rest) := by
  rw [readFields]
  simp only [readText_quote, expectToken_cons 0x3A _ (by decide), bind, Option.bind_some, if_true,
    if_neg hne, Option.map_some, skipBlanks_cons 0x7D _ (by decide)]
  rfl

/-- The bytes of a record. -/
theorem encode_writePair (firstName first secondName second : String) :
    Utf8.encode (writePair firstName first secondName second) =
      0x7B :: (Utf8.encode (quote firstName) ++ 0x3A :: (Utf8.encode (quote first) ++
        0x2C :: (Utf8.encode (quote secondName) ++ 0x3A :: (Utf8.encode (quote second) ++
          [0x7D])))) := by
  simp only [writePair, Utf8.encode_append, List.append_assoc]
  rfl

/-- **A record of two texts is read back**, and what follows it is left. -/
theorem readPair_writePair (firstName first secondName second : String) (rest : Bytes)
    (hne : secondName ≠ firstName) :
    readPair firstName secondName
      (Utf8.encode (writePair firstName first secondName second) ++ rest) =
    some ((first, second), rest) := by
  rw [encode_writePair, readPair]
  simp only [List.cons_append, List.append_assoc, List.nil_append,
    skipBlanks_cons 0x7B _ (by decide), if_true]
  rw [readFields_first]
  -- the fuel is the length of what has been read, which is not empty
  obtain ⟨fuel, hfuel⟩ : ∃ fuel, (Utf8.encode (quote firstName) ++ 0x3A ::
      (Utf8.encode (quote first) ++ 0x2C :: (Utf8.encode (quote secondName) ++ 0x3A ::
        (Utf8.encode (quote second) ++ 0x7D :: rest)))).length = fuel + 1 :=
    Nat.exists_eq_succ_of_ne_zero (by simp)
  rw [hfuel, readFields_second _ _ _ _ _ _ hne]

end ActorBus.Json
