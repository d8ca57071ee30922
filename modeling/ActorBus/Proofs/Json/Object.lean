import ActorBus.Proofs.Json.Number

/-!
# Reading back JSON objects

`read_encode` puts the readers of strings, records and numerals together: a value of any type but
`float` is read back from its bytes. A double is written with the digits that tell it from its
neighbours, and reading rounds twice, so it need not come back.

What follows a value must not go on with a numeral, since an integer has no end of its own.
-/

set_option autoImplicit false

namespace ActorBus.Json

/-- A byte that is no digit, point or exponent ends a numeral. -/
theorem endsNumeral_cons (b : UInt8) (rest : Bytes)
    (h : isDigit b = false ∧ b ≠ 0x2E ∧ b ≠ 0x65 ∧ b ≠ 0x45) : EndsNumeral (b :: rest) := by
  intro c hc
  obtain rfl := Option.some.inj hc
  exact h

/-- The bytes of a list of items. -/
theorem encode_writeList (items : List (List Char)) :
    Utf8.encode (writeList items) =
      0x5B :: (Utf8.encode ([','].intercalate items) ++ [0x5D]) := by
  rw [writeList, Utf8.encode_append, Utf8.encode_append]
  rfl

/-- The integers of a list are read back from behind its bracket, with fuel for each byte. -/
theorem readIntegers_intercalate (n : Int64) (ns : List Int64) (rest : Bytes) (fuel : Nat)
    (hfuel : ns.length < fuel) :
    readIntegers fuel
      (Utf8.encode ([','].intercalate ((n :: ns).map fun n => writeInt n.toInt)) ++
        0x5D :: rest) = some (n :: ns, rest) := by
  induction ns generalizing n fuel with
  | nil =>
    obtain ⟨fuel, rfl⟩ := Nat.exists_eq_succ_of_ne_zero (Nat.ne_of_gt hfuel)
    rw [List.map_singleton, List.intercalate_singleton, readIntegers,
      readInteger_writeInt n _ (endsNumeral_cons _ _ (by decide))]
    simp only [bind, Option.bind_some, skipBlanks_cons 0x5D _ (by decide)]
    rfl
  | cons m ns ih =>
    obtain ⟨fuel, rfl⟩ := Nat.exists_eq_succ_of_ne_zero (Nat.ne_of_gt (Nat.zero_lt_of_lt hfuel))
    have hbytes : Utf8.encode ([','].intercalate ((n :: m :: ns).map fun n => writeInt n.toInt)) =
        Utf8.encode (writeInt n.toInt) ++
          0x2C :: Utf8.encode ([','].intercalate ((m :: ns).map fun n => writeInt n.toInt)) := by
      rw [List.map_cons, List.map_cons, List.intercalate_cons_cons, Utf8.encode_append,
        Utf8.encode_append, List.append_assoc]
      rfl
    have hlength : ns.length < fuel := by
      rw [List.length_cons] at hfuel
      omega
    rw [hbytes, List.append_assoc, List.cons_append, readIntegers,
      readInteger_writeInt n _ (endsNumeral_cons _ _ (by decide))]
    simp only [bind, Option.bind_some, skipBlanks_cons 0x2C _ (by decide), if_true,
      ih m fuel hlength, Option.map_some]

/-- The written form of integers has at least a byte for each. -/
theorem length_le_length_encode_intercalate (ns : List Int64) :
    ns.length ≤
      (Utf8.encode ([','].intercalate (ns.map fun n => writeInt n.toInt))).length + 1 := by
  induction ns with
  | nil => exact Nat.zero_le _
  | cons n ns ih =>
    cases ns with
    | nil => exact Nat.le_add_left _ _
    | cons m ns =>
      rw [List.map_cons, List.map_cons, List.intercalate_cons_cons, Utf8.encode_append,
        Utf8.encode_append, List.length_append, List.length_append]
      have hcomma : (Utf8.encode [',']).length = 1 := rfl
      rw [List.map_cons] at ih
      simp only [List.length_cons] at ih ⊢
      omega

/-- A written integer starts with a digit or a minus sign. -/
theorem exists_encode_writeInt (n : Int) :
    ∃ b bytes, Utf8.encode (writeInt n) = b :: bytes ∧ isBlank b = false ∧ b ≠ 0x5D := by
  rw [writeInt]
  split
  · exact ⟨0x2D, Utf8.encode (Nat.toDigits 10 n.natAbs), rfl, by decide, by decide⟩
  · obtain ⟨b, bytes, hbytes, hb⟩ := exists_encode_toDigits n.natAbs
    refine ⟨b, bytes, hbytes, (isBlank_eq_false_of_isDigit b hb).1, ?_⟩
    rintro rfl
    cases hb

/-- **A list of integers is read back**, and what follows it is left. -/
theorem readList_writeList (ns : List Int64) (rest : Bytes) :
    readList (Utf8.encode (writeList (ns.map fun n => writeInt n.toInt)) ++ rest) =
      some (ns, rest) := by
  rw [encode_writeList, readList, List.cons_append, List.append_assoc, List.singleton_append,
    expectToken_cons _ _ (by decide)]
  simp only [bind, Option.bind_some]
  cases ns with
  | nil => rfl
  | cons n ns =>
    have hfuel := length_le_length_encode_intercalate (n :: ns)
    obtain ⟨b, bytes, hb, hblank, hclose⟩ := exists_encode_writeInt n.toInt
    have hstart : ∃ more,
        Utf8.encode ([','].intercalate ((n :: ns).map fun n => writeInt n.toInt)) = b :: more := by
      cases ns with
      | nil => exact ⟨bytes, by rw [List.map_singleton, List.intercalate_singleton, hb]⟩
      | cons m ns =>
        rw [List.map_cons, List.map_cons, List.intercalate_cons_cons, Utf8.encode_append,
          Utf8.encode_append, hb]
        exact ⟨_, rfl⟩
    obtain ⟨more, hmore⟩ := hstart
    have hskip : skipBlanks (Utf8.encode
        ([','].intercalate ((n :: ns).map fun n => writeInt n.toInt)) ++ 0x5D :: rest) =
          b :: (more ++ 0x5D :: rest) := by
      rw [hmore, List.cons_append, skipBlanks_cons b _ hblank]
    simp only [hskip, if_neg hclose]
    refine readIntegers_intercalate n ns rest _ ?_
    rw [List.length_append, List.length_cons]
    rw [List.length_cons] at hfuel
    omega

/-- **A value is read back** from its bytes unless it is a double, and what follows them is left. -/
theorem read_encode (t : ObjectType) (v : t.Value) (rest : Bytes) (ht : t ≠ .float)
    (hrest : EndsNumeral rest) : read t (encode t v ++ rest) = some (v, rest) := by
  cases t with
  | customer =>
    rw [encode, write, read]
    simp only [readPair_writePair _ _ _ _ _ (show "lastname" ≠ "firstname" by decide),
      Option.map_some]
  | handle =>
    rw [encode, write, read]
    simp only [readPair_writePair _ _ _ _ _ (show "method" ≠ "owner" by decide), Option.map_some]
  | boolean => cases v <;> rfl
  | integer => exact readInteger_writeInt v rest hrest
  | natural =>
    rw [encode, write, read]
    simp only [readNumber_toDigits _ rest v.toNat_lt hrest, bind, Option.bind_some,
      Number.toUInt64?, UInt64.ofNat_toNat]
    rfl
  | float => exact absurd rfl ht
  | text => exact readText_quote v rest
  | integers => exact readList_writeList v rest
  | optionalText =>
    cases v with
    | none => rfl
    | some s =>
      rw [encode, write, read]
      have hnull : expect (asciiBytes "null")
          (skipBlanks (Utf8.encode (quote s) ++ rest)) = none := by
        rw [encode_quote, List.cons_append, skipBlanks_cons _ _ (by decide)]
        rfl
      simp only [hnull, readText_quote, Option.map_some]

/-- A value is decoded from its bytes unless it is a double. -/
theorem decode_encode (t : ObjectType) (v : t.Value) (ht : t ≠ .float) :
    decode t (encode t v) = some v := by
  have h := read_encode t v [] ht (by intro b hb; cases hb)
  rw [List.append_nil] at h
  simp only [decode, h, bind, Option.bind_some]
  rfl

end ActorBus.Json
