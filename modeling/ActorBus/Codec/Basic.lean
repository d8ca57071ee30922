/-!
# The codec of an actor

A codec is two choices: the format of the objects in payload and value frames, and the encoding of
the text frames, which hold addresses, message types and type tags.
-/

set_option autoImplicit false

namespace ActorBus

/-- How objects are written. -/
inductive Format where
  | json
  | bincode
  deriving DecidableEq, Repr, Inhabited

/-- How text frames are written. -/
inductive TextEncoding where
  | utf8
  | utf16le
  deriving DecidableEq, Repr, Inhabited

/-- The name of a format. -/
def Format.name : Format → String
  | .json => "Json"
  | .bincode => "Bincode"

/-- The name of a text encoding. -/
def TextEncoding.name : TextEncoding → String
  | .utf8 => "Utf8"
  | .utf16le => "Utf16Le"

/-- The codec that an actor or a caller writes and reads with. -/
structure Codec where
  format : Format
  encoding : TextEncoding
  deriving DecidableEq, Repr, Inhabited

/-- The codec where nothing is configured: JSON objects and UTF-8 text. -/
def Codec.standard : Codec := ⟨.json, .utf8⟩

/-- The name of a codec. -/
def Codec.name (c : Codec) : String := c.format.name ++ "/" ++ c.encoding.name

end ActorBus
