import ActorBus.Bytes

/-!
# UTF-16, little endian

Text as 16-bit units, two bytes each with the low byte first. Characters beyond the first plane
take a high and a low surrogate. Reading refuses an odd byte count first and then any surrogate
that stands alone; no mark at the start is looked for or taken off.
-/

set_option autoImplicit false

namespace ActorBus.Utf16

/-- One unit as two bytes. -/
def unitBytes (unit : Nat) : Bytes := littleEndian 2 unit

/-- The units of one character. -/
def encodeChar (c : Char) : List Nat :=
  let n := c.toNat
  if n < 0x10000 then [n]
  else [0xD800 + (n - 0x10000) / 0x400, 0xDC00 + (n - 0x10000) % 0x400]

/-- The bytes of a text. -/
def encode (cs : List Char) : Bytes := (cs.flatMap encodeChar).flatMap unitBytes

/-- The units of a byte list; none when a byte is left over. -/
def units : Bytes → Option (List Nat)
  | [] => some []
  | [_] => none
  | low :: high :: rest => (units rest).map ((low.toNat + 256 * high.toNat) :: ·)

/-- A unit that opens a pair. -/
def isHighSurrogate (unit : Nat) : Bool := 0xD800 ≤ unit && unit < 0xDC00

/-- A unit that closes a pair. -/
def isLowSurrogate (unit : Nat) : Bool := 0xDC00 ≤ unit && unit < 0xE000

/-- The characters of a unit list; none when a surrogate stands alone. -/
def ofUnits : List Nat → Option (List Char)
  | [] => some []
  | u :: rest =>
    if isHighSurrogate u then
      match rest with
      | v :: rest =>
        if isLowSurrogate v then
          (ofUnits rest).map (Char.ofNat (0x10000 + (u - 0xD800) * 0x400 + (v - 0xDC00)) :: ·)
        else none
      | [] => none
    else if isLowSurrogate u then none
    else (ofUnits rest).map (Char.ofNat u :: ·)

/-- Why bytes are not text. -/
inductive Fault where
  | oddLength (length : Nat)
  | loneSurrogate
  deriving DecidableEq, Repr

/-- The wording of a fault. -/
def Fault.message : Fault → String
  | .oddLength length => s!"odd UTF-16 byte length {length}"
  | .loneSurrogate => "invalid utf-16: lone surrogate found"

/-- Reads a text. -/
def decode (bytes : Bytes) : Except Fault (List Char) :=
  match units bytes with
  | none => .error (.oddLength bytes.length)
  | some us =>
    match ofUnits us with
    | none => .error .loneSurrogate
    | some cs => .ok cs

end ActorBus.Utf16
