import ActorBus.Object
import ActorBus.Text.Utf8

/-!
# Objects as plain binary

Every number takes its full width, low byte first; texts and lists start with their length in eight
bytes, an optional value with a byte that says whether it is there. Reading takes what it needs from
the start and leaves the rest alone, so bytes after the value are no fault.
-/

set_option autoImplicit false

namespace ActorBus.Binary

/-- Why bytes are no value of a type. -/
inductive Fault where
  /-- The bytes end inside a number, a truth value, a tag or a length. -/
  | endOfInput
  /-- Fewer bytes are left than a text's length says. -/
  | shortText
  | notBoolean (byte : UInt8)
  | notOptionTag (byte : UInt8)
  | notText (fault : Utf8.Fault)
  deriving DecidableEq, Repr

/-- The wording of a fault. -/
def Fault.message : Fault → String
  | .endOfInput => "io error: unexpected end of file"
  | .shortText => "io error: "
  | .notBoolean byte =>
    s!"invalid u8 while decoding bool, expected 0 or 1, found {byte.toNat}"
  | .notOptionTag byte => s!"tag for enum is not valid, found {byte.toNat}"
  | .notText fault => "string is not valid utf8: " ++ fault.message

/-- A text: its length in bytes, then its UTF-8 form. -/
def encodeText (s : String) : Bytes :=
  let bytes := Utf8.encode s.toList
  littleEndian 8 bytes.length ++ bytes

/-- A signed integer in two's complement. -/
def encodeInteger (n : Int64) : Bytes := littleEndian 8 n.toUInt64.toNat

/-- The bytes of a value. -/
def encode : (t : ObjectType) → t.Value → Bytes
  | .customer, c => encodeText c.firstname ++ encodeText c.lastname
  | .handle, h => encodeText h.owner ++ encodeText h.method
  | .boolean, b => [if b then 1 else 0]
  | .integer, n => encodeInteger n
  | .natural, n => littleEndian 8 n.toNat
  | .float, x => littleEndian 8 x.bits.toNat
  | .text, s => encodeText s
  | .integers, ns => littleEndian 8 ns.length ++ ns.flatMap encodeInteger
  | .optionalText, none => [0]
  | .optionalText, some s => 1 :: encodeText s

/-- Takes a value from the start of the bytes. -/
abbrev Reader (α : Type) := Bytes → Except Fault (α × Bytes)

/-- A number of eight bytes. -/
def readWord : Reader Nat := fun bytes =>
  if bytes.length < 8 then .error .endOfInput
  else .ok (ofLittleEndian (bytes.take 8), bytes.drop 8)

/-- A text. -/
def readText : Reader String := fun bytes => do
  let (length, rest) ← readWord bytes
  if rest.length < length then .error .shortText
  else
    match Utf8.decode (rest.take length) with
    | .ok cs => .ok (String.ofList cs, rest.drop length)
    | .error fault => .error (.notText fault)

/-- A signed integer. -/
def readInteger : Reader Int64 := fun bytes => do
  let (n, rest) ← readWord bytes
  .ok ((UInt64.ofNat n).toInt64, rest)

/-- A given count of signed integers. -/
def readIntegers : Nat → Reader (List Int64)
  | 0, bytes => .ok ([], bytes)
  | count + 1, bytes => do
    let (n, rest) ← readInteger bytes
    let (ns, rest) ← readIntegers count rest
    .ok (n :: ns, rest)

/-- A value of a type. -/
def read : (t : ObjectType) → Reader t.Value
  | .customer => fun bytes => do
    let (first, rest) ← readText bytes
    let (last, rest) ← readText rest
    .ok (⟨first, last⟩, rest)
  | .handle => fun bytes => do
    let (owner, rest) ← readText bytes
    let (method, rest) ← readText rest
    .ok (⟨owner, method⟩, rest)
  | .boolean => fun bytes =>
    match bytes with
    | [] => .error .endOfInput
    | b :: rest =>
      if b = 0 then .ok (false, rest)
      else if b = 1 then .ok (true, rest)
      else .error (.notBoolean b)
  | .integer => readInteger
  | .natural => fun bytes => do
    let (n, rest) ← readWord bytes
    .ok (UInt64.ofNat n, rest)
  | .float => fun bytes => do
    let (n, rest) ← readWord bytes
    .ok (⟨UInt64.ofNat n⟩, rest)
  | .text => readText
  | .integers => fun bytes => do
    let (count, rest) ← readWord bytes
    readIntegers count rest
  | .optionalText => fun bytes =>
    match bytes with
    | [] => .error .endOfInput
    | b :: rest =>
      if b = 0 then .ok (none, rest)
      else if b = 1 then do
        let (s, rest) ← readText rest
        .ok (some s, rest)
      else .error (.notOptionTag b)

/-- Reads a value from the start of the bytes. -/
def decode (t : ObjectType) (bytes : Bytes) : Except Fault t.Value :=
  (read t bytes).map (·.1)

end ActorBus.Binary
