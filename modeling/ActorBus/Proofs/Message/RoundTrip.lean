import ActorBus.Proofs.Codec.Frames
import ActorBus.Proofs.Message.Grammar

/-!
# Reading back an invocation

A written invocation is a frame list of the grammar, so `decode_eq_ok_iff` reads it. What is left is
that each part of it comes back: the texts and the handle from their frames, the parameter count
from its digits, and every argument from its tag and value.
-/

set_option autoImplicit false

namespace ActorBus

namespace Argument

/-- The tags under which the codec itself writes values; a record cannot travel under them. -/
def reservedTags : List String := ["bool", "i64", "f64", "string", "bytes"]

/-- An argument that comes back from its frames: a record needs a tag of its own, a double a format
that keeps it, and a text a length that the format can write. -/
def Carried (codec : Codec) : Argument → Prop
  | .float x => codec.Carries .float x
  | .text s => codec.Carries .text s
  | .record tag _ => tag ∉ reservedTags
  | _ => True

/-- An argument is read back under its own tag. -/
theorem ofTagged_frames (codec : Codec) (a : Argument) (ha : a.Carried codec) :
    ofTagged codec a.typeTag (a.frames codec).2 = .ok a := by
  cases a with
  | boolean b =>
    have h : codec.Carries .boolean b := ⟨fun _ => by decide, fun _ => trivial⟩
    simp only [typeTag, frames, ofTagged, if_true, codec.decode_encode _ _ h]
    rfl
  | integer n =>
    have h : codec.Carries .integer n := ⟨fun _ => by decide, fun _ => trivial⟩
    simp [typeTag, frames, ofTagged, codec.decode_encode _ _ h]
    rfl
  | float x =>
    simp [typeTag, frames, ofTagged, codec.decode_encode _ _ ha]
    rfl
  | text s =>
    simp [typeTag, frames, ofTagged, codec.decode_encode _ _ ha]
    rfl
  | bytes data => simp [typeTag, frames, ofTagged]
  | record tag data =>
    simp only [Carried, reservedTags, List.mem_cons, List.not_mem_nil, or_false, not_or] at ha
    obtain ⟨hbool, hinteger, hfloat, htext, hbytes⟩ := ha
    rw [typeTag, ofTagged, if_neg hbool, if_neg hinteger, if_neg hfloat, if_neg htext,
      if_neg hbytes]
    rfl

end Argument

/-- The frames of arguments are read back as them. -/
theorem ArgumentFrames.flatMap_frames (codec : Codec) (args : List Argument)
    (hargs : ∀ a ∈ args, a.Carried codec) :
    ArgumentFrames codec (args.flatMap fun a => [(a.frames codec).1, (a.frames codec).2]) args := by
  induction args with
  | nil => exact .nil
  | cons a args ih =>
    rw [List.flatMap_cons]
    refine .cons (codec.decodeText_encodeText a.typeTag) ?_ ?_
    · exact Argument.ofTagged_frames codec a (hargs a List.mem_cons_self)
    · exact ih fun b hb => hargs b (List.mem_cons_of_mem a hb)

namespace Message

/-- The text of a parameter count is one for its number. -/
theorem countText_countText (n : Nat) (hn : n < UInt64.size) : CountText (countText n) n := by
  have hdigits := isDigit_of_mem_toDigits n
  refine ⟨Nat.toDigits 10 n, Nat.toDigits 10 n, ?_, .inl (Blank.trim_of_isDigit _ hdigits), ?_⟩
  · rw [countText, String.toList_append]
    congr 1
    exact String.toList_ofList
  · exact ⟨Nat.toDigits_ne_nil, hdigits, Nat.ofDigitChars_ten_toDigits, hn⟩

/-- An invocation has four frames and two for each argument. -/
theorem length_invoke (codec : Codec) (address : String) (handle : MethodHandle)
    (args : List Argument) : (invoke codec address handle args).length = 4 + 2 * args.length := by
  rw [invoke, List.length_append, List.length_flatMap]
  simp
  omega

/-- **An invocation is read back.** Whatever the codec, an invocation with fewer than `2 ^ 64`
arguments, whose records travel under tags of their own and which has no doubles in JSON, is
decoded to the address, the handle and the arguments that it was written from. Lengths in plain
binary are words, so there the texts have to be texts of a 64-bit memory. -/
theorem decode_invoke (codec : Codec) (address : String) (handle : MethodHandle)
    (args : List Argument) (hcount : args.length < UInt64.size)
    (htags : ∀ tag data, Argument.record tag data ∈ args → tag ∉ Argument.reservedTags)
    (hfloats : codec.format = .json → ∀ x, Argument.float x ∉ args)
    (hfits : codec.format = .bincode →
      Binary.Fits .handle handle ∧ ∀ s, Argument.text s ∈ args → Binary.FitsText s) :
    (invoke codec address handle args).length = 4 + 2 * args.length ∧
      decode codec (invoke codec address handle args) =
        .ok (.message ⟨address, codec.encodeText invokeType, some invokeType,
          some ⟨handle, args⟩, []⟩) := by
  have hcarried : ∀ a ∈ args, a.Carried codec := by
    intro a ha
    cases a with
    | float x => exact ⟨fun hjson => absurd ha (hfloats hjson x), fun _ => trivial⟩
    | text s => exact ⟨fun _ => by decide, fun hbincode => (hfits hbincode).2 s ha⟩
    | record tag data => exact htags tag data ha
    | boolean _ => trivial
    | integer _ => trivial
    | bytes _ => trivial
  have hhandle : codec.Carries .handle handle :=
    ⟨fun _ => by decide, fun hbincode => (hfits hbincode).1⟩
  refine ⟨length_invoke codec address handle args, ?_⟩
  rw [decode_eq_ok_iff]
  exact .invocation (codec.decodeText_encodeText address) (codec.decodeText_encodeText invokeType)
    (codec.decode_encode .handle handle hhandle) (codec.decodeText_encodeText _)
    (countText_countText args.length hcount) (.flatMap_frames codec args hcarried)

/-- Quotes, controls, a character beyond the first plane, empty values and a double that is no
number come through plain binary with UTF-16 texts. -/
theorem decode_invoke_every_kind :
    let codec : Codec := ⟨.bincode, .utf16le⟩
    let args : List Argument := [.boolean true, .integer (-1), .float ⟨0x7FF8000000000001⟩,
      .text "a\"\\\x01😀", .bytes [], .text "", .record "Customer" [0x00, 0xFF]]
    (invoke codec "silo.😀" ⟨"Echo", ""⟩ args).length = 18 ∧
      decode codec (invoke codec "silo.😀" ⟨"Echo", ""⟩ args) =
        .ok (.message ⟨"silo.😀", codec.encodeText "invoke", some "invoke",
          some ⟨⟨"Echo", ""⟩, args⟩, []⟩) := by
  intro codec args
  refine decode_invoke codec "silo.😀" ⟨"Echo", ""⟩ args (by decide) ?_ (by nofun) ?_
  · intro tag data h
    simp only [args, List.mem_cons, reduceCtorEq, Argument.record.injEq, List.not_mem_nil,
      or_false, false_or] at h
    rw [h.1]
    decide
  · intro _
    refine ⟨⟨by decide, by decide⟩, ?_⟩
    intro s h
    simp only [args, List.mem_cons, reduceCtorEq, Argument.text.injEq, List.not_mem_nil,
      or_false, false_or] at h
    rcases h with rfl | rfl <;> decide

end Message

end ActorBus
