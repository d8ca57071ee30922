import ActorBus.Json.Number
import ActorBus.Json.Text

/-!
# Skipping a JSON value

A value that nobody asked for is passed over by its grammar alone: literals, numerals, strings, and
arrays and objects to any depth. The fuel of the two recursions is spent on brackets and items, of
which a byte list holds at most as many as it has bytes.
-/

set_option autoImplicit false

namespace ActorBus.Json

/-- The four blanks between tokens. -/
def isBlank (b : UInt8) : Bool := b = 0x20 || b = 0x0A || b = 0x09 || b = 0x0D

/-- What follows the blanks at the start. -/
def skipBlanks (bytes : Bytes) : Bytes := bytes.dropWhile isBlank

/-- What follows an exact row of bytes. -/
def expect : Bytes → Bytes → Option Bytes
  | [], bytes => some bytes
  | x :: xs, y :: ys => if x = y then expect xs ys else none
  | _ :: _, [] => none

/-- What follows one byte, which blanks may precede. -/
def expectToken (x : UInt8) (bytes : Bytes) : Option Bytes := expect [x] (skipBlanks bytes)

mutual

/-- What follows the value at the start. -/
def skipValue : Nat → Bytes → Option Bytes
  | 0, _ => none
  | fuel + 1, bytes =>
    match skipBlanks bytes with
    | [] => none
    | b :: rest =>
      if b = 0x6E then expect (asciiBytes "ull") rest
      else if b = 0x74 then expect (asciiBytes "rue") rest
      else if b = 0x66 then expect (asciiBytes "alse") rest
      else if b = 0x22 then skipString rest
      else if b = 0x5B then
        match skipBlanks rest with
        | [] => none
        | c :: after => if c = 0x5D then some after else skipItems false fuel rest
      else if b = 0x7B then
        match skipBlanks rest with
        | [] => none
        | c :: after => if c = 0x7D then some after else skipItems true fuel rest
      else (numeral (b :: rest)).map (·.2)

/-- What follows the closing bracket of an array or object, from before one of its items. -/
def skipItems (keyed : Bool) : Nat → Bytes → Option Bytes
  | 0, _ => none
  | fuel + 1, bytes => do
    let value ←
      if keyed then do
        let key ← expectToken 0x22 bytes
        let colon ← skipString key
        expectToken 0x3A colon
      else some bytes
    let after ← skipValue fuel value
    match skipBlanks after with
    | [] => none
    | b :: rest =>
      if b = 0x2C then skipItems keyed fuel rest
      else if b = (if keyed then 0x7D else 0x5D) then some rest
      else none

end

/-- What follows the value at the start, with fuel for any value. -/
def skip (bytes : Bytes) : Option Bytes := skipValue (2 * bytes.length + 2) bytes

end ActorBus.Json
