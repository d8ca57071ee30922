import ActorBus.Error
import ActorBus.Json.Object

/-!
# Frames of text and of objects

What a codec does with one frame: texts in its text encoding, objects in its format. Writing cannot
fail.
-/

set_option autoImplicit false

namespace ActorBus

/-- A text in an encoding. -/
def TextEncoding.encode : TextEncoding → String → Frame
  | .utf8, s => Utf8.encode s.toList
  | .utf16le, s => Utf16.encode s.toList

/-- The text of a frame in an encoding. -/
def TextEncoding.decode : TextEncoding → Frame → Except TextFault String
  | .utf8, frame => ((Utf8.decode frame).mapError .utf8).map String.ofList
  | .utf16le, frame => ((Utf16.decode frame).mapError .utf16).map String.ofList

namespace Codec

/-- A text frame. -/
def encodeText (c : Codec) (s : String) : Frame := c.encoding.encode s

/-- The text of a text frame. -/
def decodeText (c : Codec) (frame : Frame) : Except CodecError String :=
  (c.encoding.decode frame).mapError .invalidText

/-- A frame that holds an object. -/
def encode (c : Codec) (t : ObjectType) (v : t.Value) : Frame :=
  match c.format with
  | .json => Json.encode t v
  | .bincode => Binary.encode t v

/-- The object of a frame, read under a type. -/
def decode (c : Codec) (t : ObjectType) (frame : Frame) : Except CodecError t.Value :=
  match c.format with
  | .json =>
    match Json.decode t frame with
    | some v => .ok v
    | none => .error .invalidJson
  | .bincode => (Binary.decode t frame).mapError .invalidBinary

end Codec

end ActorBus
