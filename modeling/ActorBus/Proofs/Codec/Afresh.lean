import ActorBus.Proofs.Codec.Canonical
import Mathlib.Algebra.Group.Nat.Defs

/-!
# Writing afresh what has been read

The bytes of an object need not be the ones that its codec writes: JSON has blanks, orders of names
and names that nobody knows, and plain binary may go on behind the value. But whatever has been read
can be written, and what is then written is read as the same value
(`Codec.decode_encode_of_decode`).

In plain binary this needs the lengths inside the value to fit a word (`Binary.fits_of_read`): they
do, because each has been read from one.
-/

set_option autoImplicit false

namespace ActorBus

/-- Some bytes hold a number of their width. -/
theorem ofLittleEndian_lt (bytes : Bytes) : ofLittleEndian bytes < 256 ^ bytes.length := by
  induction bytes with
  | nil => decide
  | cons b rest ih =>
    have hb := b.toNat_lt
    rw [ofLittleEndian, List.length_cons, Nat.pow_succ]
    omega

/-- Where two computations in a row succeed, the first one has. -/
theorem exists_of_bind_eq_ok {ε α β : Type} {r : Except ε α} {k : α → Except ε β} {v : β}
    (h : r >>= k = .ok v) : ∃ a, r = .ok a ∧ k a = .ok v := by
  cases r with
  | error e => cases h
  | ok a => exact ⟨a, rfl, h⟩

namespace Binary

/-- A number that has been read from a word fits one. -/
theorem lt_of_readWord {bytes rest : Bytes} {n : Nat} (h : readWord bytes = .ok (n, rest)) :
    n < UInt64.size := by
  rw [readWord] at h
  split at h
  · cases h
  · next hlength =>
    cases h
    have hword := ofLittleEndian_lt (bytes.take 8)
    rwa [List.length_take_of_le (Nat.le_of_not_lt hlength)] at hword

/-- A text that has been read takes as many bytes as its length said. -/
theorem fitsText_of_readText {bytes rest : Bytes} {s : String}
    (h : readText bytes = .ok (s, rest)) : FitsText s := by
  obtain ⟨⟨length, behind⟩, hword, h⟩ := exists_of_bind_eq_ok h
  simp only at h
  split at h
  · cases h
  · split at h
    · next cs hcs =>
      cases h
      have hbytes := congrArg List.length (Utf8.decode_eq_ok_iff.mp hcs)
      have hlength := lt_of_readWord hword
      rw [List.length_take] at hbytes
      rw [FitsText, String.toList_ofList]
      omega
    · cases h

/-- A list that has been read has as many items as its length said. -/
theorem length_of_readIntegers {count : Nat} {bytes rest : Bytes} {ns : List Int64}
    (h : readIntegers count bytes = .ok (ns, rest)) : ns.length = count := by
  induction count generalizing bytes ns with
  | zero =>
    cases h
    rfl
  | succ count ih =>
    obtain ⟨first, -, h⟩ := exists_of_bind_eq_ok h
    obtain ⟨others, hothers, h⟩ := exists_of_bind_eq_ok h
    cases h
    rw [List.length_cons, ih hothers]

/-- **What has been read can be written**: the lengths inside it fit a word. -/
theorem fits_of_read (t : ObjectType) {bytes rest : Bytes} {v : t.Value}
    (h : read t bytes = .ok (v, rest)) : Fits t v := by
  cases t with
  | boolean | integer | natural | float => trivial
  | customer | handle =>
    obtain ⟨first, hfirst, h⟩ := exists_of_bind_eq_ok h
    obtain ⟨second, hsecond, h⟩ := exists_of_bind_eq_ok h
    cases h
    exact ⟨fitsText_of_readText hfirst, fitsText_of_readText hsecond⟩
  | text => exact fitsText_of_readText h
  | integers =>
    obtain ⟨count, hcount, h⟩ := exists_of_bind_eq_ok h
    rw [Fits, length_of_readIntegers h]
    exact lt_of_readWord hcount
  | optionalText =>
    cases v with
    | none => trivial
    | some s =>
      simp only [read] at h
      split at h
      · cases h
      · split_ifs at h
        · cases h
        · obtain ⟨text, htext, h⟩ := exists_of_bind_eq_ok h
          cases h
          exact fitsText_of_readText htext

end Binary

namespace Codec

/-- A codec carries every value that it has read, doubles in JSON apart. -/
theorem carries_of_decode (c : Codec) {t : ObjectType} (ht : c.format = .json → t ≠ .float)
    {frame : Frame} {v : t.Value} (h : c.decode t frame = .ok v) : c.Carries t v where
  json := ht
  bincode := by
    intro hformat
    rw [decode, hformat] at h
    simp only [Binary.decode] at h
    cases hread : Binary.read t frame with
    | error fault =>
      rw [hread] at h
      cases h
    | ok r =>
      rw [hread] at h
      cases h
      exact Binary.fits_of_read t hread

/-- **What has been read is written afresh**: the bytes that the codec has for it are read as the
same value, whichever bytes it was read from. -/
theorem decode_encode_of_decode (c : Codec) {t : ObjectType} (ht : c.format = .json → t ≠ .float)
    {frame : Frame} {v : t.Value} (h : c.decode t frame = .ok v) :
    c.decode t (c.encode t v) = .ok v :=
  c.decode_encode t v (c.carries_of_decode ht h)

end Codec

end ActorBus
