import ActorBus.Bytes

/-!
# Hexadecimal text

Two digits for each byte, high half first. Rendering uses lower-case digits; reading takes either
case. A text that is all ASCII is measured before its digits are looked at, so an odd length is
reported even where a character is no digit; a text with any other character never gets that far.
-/

set_option autoImplicit false

namespace ActorBus.Hex

/-- The digit of a half byte. -/
def digit (n : Nat) : Char :=
  if n < 10 then Char.ofNat (48 + n) else Char.ofNat (87 + n)

/-- A byte list in lower-case digits. -/
def render (bytes : Bytes) : List Char :=
  bytes.flatMap fun b => [digit (b.toNat / 16), digit (b.toNat % 16)]

/-- The value of a digit of either case. -/
def nibble (c : Char) : Option Nat :=
  let n := c.toNat
  if 48 ≤ n ∧ n ≤ 57 then some (n - 48)
  else if 97 ≤ n ∧ n ≤ 102 then some (n - 87)
  else if 65 ≤ n ∧ n ≤ 70 then some (n - 55)
  else none

/-- Why a text is not hexadecimal. -/
inductive Fault where
  | oddLength
  | nonHex
  deriving DecidableEq, Repr

/-- The wording of a fault, which is also the answer given for such a text. -/
def Fault.message : Fault → String
  | .oddLength => "Invalid: odd number of characters"
  | .nonHex => "Invalid: non-hex character"

/-- Reads digits two by two; none when one of them is no digit or is left over. -/
def pairs : List Char → Option Bytes
  | [] => some []
  | [_] => none
  | high :: low :: rest => do
    let h ← nibble high
    let l ← nibble low
    let bytes ← pairs rest
    pure (UInt8.ofNat (h * 16 + l) :: bytes)

/-- Reads a hexadecimal text. -/
def decode (cs : List Char) : Except Fault Bytes :=
  if cs.any (fun c => 128 ≤ c.toNat) then .error .nonHex
  else if cs.length % 2 ≠ 0 then .error .oddLength
  else
    match pairs cs with
    | some bytes => .ok bytes
    | none => .error .nonHex

end ActorBus.Hex
