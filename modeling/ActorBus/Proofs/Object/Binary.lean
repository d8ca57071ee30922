import ActorBus.Binary
import ActorBus.Proofs.Text.Utf8

/-!
# Reading back binary objects

`read_encode` says that a value is read back from its bytes whatever follows them. Each reader takes
what its writer has put down, so the lemmas go from words to texts to values.

A length is a word, so a text has to have fewer than `2 ^ 64` bytes and a list fewer than `2 ^ 64`
items. `Fits` says that of the parts of a value; every value that fits a memory of that size does.
-/

set_option autoImplicit false

namespace ActorBus.Binary

/-- The length of a text in bytes can be written as a word. -/
def FitsText (s : String) : Prop := (Utf8.encode s.toList).length < UInt64.size

instance (s : String) : Decidable (FitsText s) := inferInstanceAs (Decidable (_ < _))

/-- The lengths inside a value can be written as words. -/
def Fits : (t : ObjectType) → t.Value → Prop
  | .customer, c => FitsText c.firstname ∧ FitsText c.lastname
  | .handle, h => FitsText h.owner ∧ FitsText h.method
  | .text, s => FitsText s
  | .integers, ns => ns.length < UInt64.size
  | .optionalText, some s => FitsText s
  | _, _ => True

/-- A word is read back. -/
theorem readWord_littleEndian (n : Nat) (rest : Bytes) (hn : n < UInt64.size) :
    readWord (littleEndian 8 n ++ rest) = .ok (n, rest) := by
  have hlen := length_littleEndian 8 n
  have hback := ofLittleEndian_littleEndian 8 n hn
  rw [readWord, if_neg (by rw [List.length_append, hlen]; omega), List.take_left' hlen,
    List.drop_left' hlen, hback]

/-- A text is read back. -/
theorem readText_encodeText (s : String) (rest : Bytes) (hs : FitsText s) :
    readText (encodeText s ++ rest) = .ok (s, rest) := by
  rw [encodeText, readText, List.append_assoc, readWord_littleEndian _ _ hs]
  simp only [bind, Except.bind]
  rw [if_neg (by rw [List.length_append]; omega), List.take_left, List.drop_left,
    Utf8.decode_encode]
  simp only [String.ofList_toList]

/-- A signed integer is read back. -/
theorem readInteger_encodeInteger (n : Int64) (rest : Bytes) :
    readInteger (encodeInteger n ++ rest) = .ok (n, rest) := by
  rw [encodeInteger, readInteger, readWord_littleEndian _ _ n.toUInt64.toNat_lt]
  simp only [bind, Except.bind, UInt64.ofNat_toNat, Int64.toInt64_toUInt64]

/-- A row of signed integers is read back. -/
theorem readIntegers_flatMap (ns : List Int64) (rest : Bytes) :
    readIntegers ns.length (ns.flatMap encodeInteger ++ rest) = .ok (ns, rest) := by
  induction ns with
  | nil => rfl
  | cons n ns ih =>
    rw [List.length_cons, readIntegers, List.flatMap_cons, List.append_assoc,
      readInteger_encodeInteger]
    simp only [bind, Except.bind, ih]

/-- **A value is read back** from its bytes, and what follows them is left. -/
theorem read_encode (t : ObjectType) (v : t.Value) (rest : Bytes) (hv : Fits t v) :
    read t (encode t v ++ rest) = .ok (v, rest) := by
  cases t with
  | customer =>
    simp only [encode, read, List.append_assoc, readText_encodeText _ _ hv.1,
      readText_encodeText _ _ hv.2, bind, Except.bind]
  | handle =>
    simp only [encode, read, List.append_assoc, readText_encodeText _ _ hv.1,
      readText_encodeText _ _ hv.2, bind, Except.bind]
  | boolean => cases v <;> rfl
  | integer => exact readInteger_encodeInteger v rest
  | natural =>
    simp only [encode, read, readWord_littleEndian _ _ v.toNat_lt, bind, Except.bind,
      UInt64.ofNat_toNat]
  | float =>
    simp only [encode, read, readWord_littleEndian _ _ v.bits.toNat_lt, bind, Except.bind,
      UInt64.ofNat_toNat]
  | text => exact readText_encodeText v rest hv
  | integers =>
    simp only [encode, read, List.append_assoc, readWord_littleEndian _ _ hv, bind, Except.bind,
      readIntegers_flatMap]
  | optionalText =>
    cases v with
    | none => rfl
    | some s =>
      rw [encode, read]
      simp only [List.cons_append, bind, Except.bind]
      rw [readText_encodeText s rest hv]
      rfl

/-- A value is decoded from its bytes. -/
theorem decode_encode (t : ObjectType) (v : t.Value) (hv : Fits t v) :
    decode t (encode t v) = .ok v := by
  have h := read_encode t v [] hv
  rw [List.append_nil] at h
  rw [decode, h]
  rfl

end ActorBus.Binary
