import ActorBus.Proofs.Codec.Frames
import ActorBus.Proofs.Json.Zero
import Mathlib.Algebra.Group.Nat.Defs

/-!
# Handles in the wrong format

The two formats have no handle in common. A plain binary handle starts with the length of a text,
whose last byte is zero, and JSON holds no zero byte; a JSON handle starts with a brace and a quoted
name, which plain binary takes for a length beyond every handle. So an actor that is called in the
other format gets no further than the handle.
-/

set_option autoImplicit false

namespace ActorBus

/-- A length far below the limit has a zero among its eight bytes. -/
theorem zero_mem_littleEndian {n : Nat} (h : n < 2 ^ 56) : (0 : UInt8) ∈ littleEndian 8 n := by
  have hlast : n / 256 / 256 / 256 / 256 / 256 / 256 / 256 % 256 = 0 := by omega
  simp only [littleEndian, hlast]
  simp

/-- JSON reads no handle that is written in plain binary. -/
theorem Json.decode_handle_binary {handle : MethodHandle}
    (h : (Binary.encode .handle handle).length < 2 ^ 56) :
    decode .handle (Binary.encode .handle handle) = none := by
  have howner : (Utf8.encode handle.owner.toList).length < 2 ^ 56 := by
    simp only [Binary.encode, Binary.encodeText, List.length_append] at h
    omega
  have hzero : (0 : UInt8) ∈ Binary.encode .handle handle :=
    List.mem_append_left _ (List.mem_append_left _ (zero_mem_littleEndian howner))
  rw [Option.eq_none_iff_forall_not_mem]
  intro read hread
  exact zero_not_mem_of_decode hread hzero

/-- Plain binary reads no handle that is written in JSON. -/
theorem Binary.decode_handle_json {handle : MethodHandle}
    (h : (Json.encode .handle handle).length < 2 ^ 56) :
    decode .handle (Json.encode .handle handle) = .error .shortText := by
  obtain ⟨rest, hrest⟩ : ∃ rest, Json.encode .handle handle =
      0x7B :: 0x22 :: 0x6F :: 0x77 :: 0x6E :: 0x65 :: 0x72 :: 0x22 :: rest := by
    have hname : Utf8.encode (Json.quote "owner") =
        [0x22, 0x6F, 0x77, 0x6E, 0x65, 0x72, 0x22] := by decide
    rw [Json.encode, Json.write, Json.encode_writePair, hname]
    exact ⟨_, rfl⟩
  rw [hrest] at h ⊢
  generalize hbytes :
    (0x7B :: 0x22 :: 0x6F :: 0x77 :: 0x6E :: 0x65 :: 0x72 :: 0x22 :: rest : Bytes) = bytes at h
  have hnumber : ofLittleEndian [0x7B, 0x22, 0x6F, 0x77, 0x6E, 0x65, 0x72, 0x22] =
      0x2272656E776F227B := by decide
  have hword : readWord bytes = .ok (0x2272656E776F227B, rest) := by
    rw [readWord, ← hbytes, if_neg (by simp), ← hnumber]
    rfl
  have hshort : rest.length < 0x2272656E776F227B := by
    have hlength : rest.length + 8 = bytes.length := by
      rw [← hbytes]
      rfl
    omega
  have hread : readText bytes = .error .shortText := by
    simp only [readText, hword, bind, Except.bind]
    exact if_pos hshort
  simp only [decode, read, hread, bind, Except.bind]
  rfl

/-- A codec is its format and its text encoding. -/
theorem Codec.ext {c d : Codec} (hformat : c.format = d.format)
    (hencoding : c.encoding = d.encoding) : c = d := by
  cases c
  cases d
  cases hformat
  cases hencoding
  rfl

/-- **A handle is not read in the other format.** -/
theorem Codec.exists_decode_handle_eq_error {c d : Codec} {handle : MethodHandle}
    (hformat : c.format ≠ d.format) (hlength : (d.encode .handle handle).length < 2 ^ 56) :
    ∃ e, c.decode .handle (d.encode .handle handle) = .error e := by
  rw [encode] at hlength ⊢
  rw [decode]
  cases hc : c.format with
  | json =>
    cases hd : d.format with
    | json => exact absurd (hc.trans hd.symm) hformat
    | bincode =>
      rw [hd] at hlength
      simp only [Json.decode_handle_binary hlength]
      exact ⟨_, rfl⟩
  | bincode =>
    cases hd : d.format with
    | json =>
      rw [hd] at hlength
      simp only [Binary.decode_handle_json hlength]
      exact ⟨_, rfl⟩
    | bincode => exact absurd (hc.trans hd.symm) hformat

/-- A handle of a size that memory has is carried by every format. -/
theorem Codec.carries_handle {c : Codec} {handle : MethodHandle}
    (hlength : (c.encode .handle handle).length < 2 ^ 56) : c.Carries .handle handle := by
  refine ⟨fun _ => by decide, ?_⟩
  intro hformat
  rw [encode, hformat] at hlength
  simp only [Binary.encode, Binary.encodeText, List.length_append] at hlength
  constructor
  · exact Nat.lt_of_le_of_lt (by omega) (show 2 ^ 56 < UInt64.size by decide)
  · exact Nat.lt_of_le_of_lt (by omega) (show 2 ^ 56 < UInt64.size by decide)

end ActorBus
