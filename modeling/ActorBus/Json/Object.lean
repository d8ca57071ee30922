import ActorBus.Json.Skip
import ActorBus.Object

/-!
# Objects as JSON

Each type has one compact written form. Reading is wider: blanks may stand around every token, a
record may have its fields in any order with fields it does not know between them, or be an array of
exactly its values, and a double may be written as an integer. `decode` refuses bytes that hold
anything but blanks beside the value.
-/

set_option autoImplicit false

namespace ActorBus.Json

/-- A record of two texts. -/
def writePair (firstName first secondName second : String) : List Char :=
  ['\x7b'] ++ quote firstName ++ [':'] ++ quote first ++ [','] ++ quote secondName ++ [':'] ++
    quote second ++ ['\x7d']

/-- Items in brackets, with commas between them. -/
def writeList (items : List (List Char)) : List Char :=
  ['['] ++ [','].intercalate items ++ [']']

/-- The written form of a value. -/
def write : (t : ObjectType) → t.Value → List Char
  | .customer, c => writePair "firstname" c.firstname "lastname" c.lastname
  | .handle, h => writePair "owner" h.owner "method" h.method
  | .boolean, b => if b then "true".toList else "false".toList
  | .integer, n => writeInt n.toInt
  | .natural, n => Nat.toDigits 10 n.toNat
  | .float, x => writeFloat x
  | .text, s => quote s
  | .integers, ns => writeList (ns.map fun n => writeInt n.toInt)
  | .optionalText, none => "null".toList
  | .optionalText, some s => quote s

/-- The bytes of a value. -/
def encode (t : ObjectType) (v : t.Value) : Bytes := Utf8.encode (write t v)

/-- Takes a value from the start of the bytes, if there is one. -/
abbrev Reader (α : Type) := Bytes → Option (α × Bytes)

/-- A string literal. -/
def readText : Reader String := fun bytes => (expectToken 0x22 bytes).bind stringText

/-- A numeral. -/
def readNumber : Reader Number := fun bytes => do
  let (t, rest) ← numeral (skipBlanks bytes)
  let n ← t.value
  pure (n, rest)

/-- A signed integer. -/
def readInteger : Reader Int64 := fun bytes => do
  let (n, rest) ← readNumber bytes
  let n ← n.toInt64?
  pure (n, rest)

/-- Signed integers from before one of them to after the closing bracket. -/
def readIntegers : Nat → Reader (List Int64)
  | 0, _ => none
  | fuel + 1, bytes => do
    let (n, rest) ← readInteger bytes
    match skipBlanks rest with
    | [] => none
    | b :: rest =>
      if b = 0x2C then (readIntegers fuel rest).map fun (ns, rest) => (n :: ns, rest)
      else if b = 0x5D then some ([n], rest)
      else none

/-- A list of signed integers. -/
def readList : Reader (List Int64) := fun bytes => do
  let rest ← expectToken 0x5B bytes
  match skipBlanks rest with
  | [] => none
  | b :: after => if b = 0x5D then some ([], after) else readIntegers (rest.length + 1) rest

/-- The fields of a record of two texts, from before a key to after the closing brace, with the
values found so far. A known key may come only once, and both must come. -/
def readFields (firstName secondName : String) :
    Nat → Option String → Option String → Reader (String × String)
  | 0, _, _, _ => none
  | fuel + 1, first, second, bytes => do
    let (key, rest) ← readText bytes
    let value ← expectToken 0x3A rest
    let (first, second, rest) ←
      if key = firstName then
        match first with
        | some _ => none
        | none => (readText value).map fun (s, rest) => (some s, second, rest)
      else if key = secondName then
        match second with
        | some _ => none
        | none => (readText value).map fun (s, rest) => (first, some s, rest)
      else (skip value).map fun rest => (first, second, rest)
    match skipBlanks rest with
    | [] => none
    | b :: rest =>
      if b = 0x2C then readFields firstName secondName fuel first second rest
      else if b = 0x7D then do
        let first ← first
        let second ← second
        pure ((first, second), rest)
      else none

/-- A record of two texts. -/
def readPair (firstName secondName : String) : Reader (String × String) := fun bytes =>
  match skipBlanks bytes with
  | [] => none
  | b :: rest =>
    if b = 0x7B then readFields firstName secondName (rest.length + 1) none none rest
    else if b = 0x5B then do
      let (first, rest) ← readText rest
      let rest ← expectToken 0x2C rest
      let (second, rest) ← readText rest
      let rest ← expectToken 0x5D rest
      pure ((first, second), rest)
    else none

/-- A value of a type. -/
def read : (t : ObjectType) → Reader t.Value
  | .customer => fun bytes => (readPair "firstname" "lastname" bytes).map fun (p, rest) =>
      (⟨p.1, p.2⟩, rest)
  | .handle => fun bytes => (readPair "owner" "method" bytes).map fun (p, rest) =>
      (⟨p.1, p.2⟩, rest)
  | .boolean => fun bytes =>
    match expect (asciiBytes "true") (skipBlanks bytes) with
    | some rest => some (true, rest)
    | none => (expect (asciiBytes "false") (skipBlanks bytes)).map fun rest => (false, rest)
  | .integer => readInteger
  | .natural => fun bytes => do
    let (n, rest) ← readNumber bytes
    let n ← n.toUInt64?
    pure (n, rest)
  | .float => fun bytes => (readNumber bytes).map fun (n, rest) => (n.toBinary64, rest)
  | .text => readText
  | .integers => readList
  | .optionalText => fun bytes =>
    match expect (asciiBytes "null") (skipBlanks bytes) with
    | some rest => some (none, rest)
    | none => (readText bytes).map fun (s, rest) => (some s, rest)

/-- Reads bytes that hold one value of a type and nothing else. -/
def decode (t : ObjectType) (bytes : Bytes) : Option t.Value := do
  let (v, rest) ← read t bytes
  if (skipBlanks rest).isEmpty then some v else none

end ActorBus.Json
