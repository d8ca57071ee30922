import ActorBus.Codec.Frames
import ActorBus.Proofs.Json.Object
import ActorBus.Proofs.Object.Binary
import ActorBus.Proofs.Text.Utf16

/-!
# Reading back a frame

The two choices of a codec are independent, and each format and each encoding has its own
development. The two theorems here put them together: a text always comes back from its frame, and
an object does when its format carries it.
-/

set_option autoImplicit false

namespace ActorBus

/-- A text comes back from its bytes in either encoding. -/
theorem TextEncoding.decode_encode (encoding : TextEncoding) (s : String) :
    encoding.decode (encoding.encode s) = .ok s := by
  cases encoding with
  | utf8 =>
    rw [encode, decode, Utf8.decode_encode]
    exact congrArg Except.ok String.ofList_toList
  | utf16le =>
    rw [encode, decode, Utf16.decode_encode]
    exact congrArg Except.ok String.ofList_toList

namespace Codec

/-- A text comes back from its frame. -/
theorem decodeText_encodeText (c : Codec) (s : String) :
    c.decodeText (c.encodeText s) = .ok s := by
  rw [encodeText, decodeText, TextEncoding.decode_encode]
  rfl

/-- The format of a codec keeps a value: JSON any value that is no double, plain binary any value
whose lengths it can write. -/
structure Carries (c : Codec) (t : ObjectType) (v : t.Value) : Prop where
  json : c.format = .json → t ≠ .float
  bincode : c.format = .bincode → Binary.Fits t v

/-- An object that the format carries comes back from its frame. -/
theorem decode_encode (c : Codec) (t : ObjectType) (v : t.Value) (h : c.Carries t v) :
    c.decode t (c.encode t v) = .ok v := by
  rw [encode, decode]
  cases hformat : c.format with
  | json => simp only [Json.decode_encode t v (h.json hformat)]
  | bincode =>
    simp only [Binary.decode_encode t v (h.bincode hformat)]
    rfl

end Codec

end ActorBus
