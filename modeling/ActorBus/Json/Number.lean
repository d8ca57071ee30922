import ActorBus.Bytes
import ActorBus.Number.Binary64
import ActorBus.Number.Shortest

/-!
# JSON numbers

A numeral is cut out by the grammar first and given a value afterwards. Without fraction and
exponent it is an integer as long as it fits 64 bits; every other numeral is a double. The double is
found in two roundings: the digits that fit 64 bits become a double, and that is scaled by a power
of ten. It is therefore not always the double nearest to the numeral.
-/

set_option autoImplicit false

namespace ActorBus.Json

/-- A numeral by its parts; digits are their values. -/
structure Numeral where
  negative : Bool
  whole : List Nat
  fraction : Option (List Nat)
  /-- The exponent's sign, true when it is negative, and its digits. -/
  exponent : Option (Bool × List Nat)
  deriving DecidableEq, Repr

/-- A decimal digit. -/
def isDigit (b : UInt8) : Bool := 0x30 ≤ b && b ≤ 0x39

/-- The value of a decimal digit. -/
def digitValue (b : UInt8) : Nat := b.toNat - 0x30

/-- The digits at the start, and what follows them. -/
def digits (bytes : Bytes) : List Nat × Bytes :=
  ((bytes.takeWhile isDigit).map digitValue, bytes.dropWhile isDigit)

/-- At least one digit. -/
def someDigits (bytes : Bytes) : Option (List Nat × Bytes) :=
  match digits bytes with
  | ([], _) => none
  | found => some found

/-- The digits before the point: a zero alone, or a row that does not start with a zero. -/
def wholePart (bytes : Bytes) : Option (List Nat × Bytes) :=
  match digits bytes with
  | ([], _) => none
  | (0 :: _ :: _, _) => none
  | found => some found

/-- The digits after a point, if there is one. -/
def fractionPart (bytes : Bytes) : Option (Option (List Nat) × Bytes) :=
  match bytes with
  | b :: rest =>
    if b = 0x2E then (someDigits rest).map fun (ds, rest) => (some ds, rest)
    else some (none, bytes)
  | [] => some (none, [])

/-- The sign and digits of an exponent, if there is one. -/
def exponentPart (bytes : Bytes) : Option (Option (Bool × List Nat) × Bytes) :=
  match bytes with
  | b :: rest =>
    if b = 0x65 ∨ b = 0x45 then
      match rest with
      | s :: digits =>
        if s = 0x2D then (someDigits digits).map fun (ds, rest) => (some (true, ds), rest)
        else if s = 0x2B then (someDigits digits).map fun (ds, rest) => (some (false, ds), rest)
        else (someDigits rest).map fun (ds, rest) => (some (false, ds), rest)
      | [] => none
    else some (none, bytes)
  | [] => some (none, [])

/-- A numeral from after its sign. -/
def unsignedNumeral (negative : Bool) (bytes : Bytes) : Option (Numeral × Bytes) := do
  let (whole, rest) ← wholePart bytes
  let (fraction, rest) ← fractionPart rest
  let (exponent, rest) ← exponentPart rest
  pure (⟨negative, whole, fraction, exponent⟩, rest)

/-- The numeral at the start of the bytes, and what follows it. -/
def numeral (bytes : Bytes) : Option (Numeral × Bytes) :=
  match bytes with
  | b :: rest => if b = 0x2D then unsignedNumeral true rest else unsignedNumeral false bytes
  | [] => none

/-- What a numeral stands for. -/
inductive Number where
  /-- A nonnegative integer below `2 ^ 64`. -/
  | natural (n : Nat)
  /-- An integer below zero and not below `-2 ^ 63`, by its absolute value. -/
  | negative (n : Nat)
  | float (x : Binary64)
  deriving DecidableEq, Repr

/-- Takes in digits while the number stays below `2 ^ 64`; also says how many were left out, which
are all from the first that did not fit. -/
def absorb (n : Nat) : List Nat → Nat × Nat
  | [] => (n, 0)
  | d :: ds => if n * 10 + d < UInt64.size then absorb (n * 10 + d) ds else (n, ds.length + 1)

/-- Divides by `10 ^ n`, in strides of 308 powers, at most `strides` of them before the last. -/
def scaleDown : Nat → Binary64 → Nat → Binary64
  | 0, x, n => x.div (Binary64.powTen n)
  | strides + 1, x, n =>
    if n ≤ 308 then x.div (Binary64.powTen n)
    else if x.isZero then x
    else scaleDown strides (x.div (Binary64.powTen 308)) (n - 308)

/-- The double of `n · 10 ^ e`, rounded once for `n` and once for each scaling; none when it
overflows. -/
def scaled (n : Nat) (e : Int) : Option Binary64 :=
  let x := Binary64.ofNat n
  if e < 0 then some (scaleDown (e.natAbs / 308) x e.natAbs)
  else if 308 < e then if x.isZero then some x else none
  else
    let y := x.mul (Binary64.powTen e.natAbs)
    if y.isFinite then some y else none

/-- The number that digits write. -/
def ofDigits (ds : List Nat) : Nat := ds.foldl (fun n d => n * 10 + d) 0

/-- The value of a numeral; none when it overflows. -/
def Numeral.value (t : Numeral) : Option Number :=
  let signed (x : Binary64) : Number := .float (if t.negative then x.neg else x)
  let (n, dropped) := absorb 0 t.whole
  match t.fraction, t.exponent with
  | none, none =>
    if dropped = 0 then
      if !t.negative then some (.natural n)
      else if 0 < n ∧ IsSigned64 (-n) then some (.negative n)
      else some (signed (Binary64.ofNat n))
    else (scaled n dropped).map signed
  | fraction, exponent =>
    let ds := fraction.getD []
    let (n, left) := absorb n ds
    let start : Int := (dropped : Int) - ((ds.length - left : Nat) : Int)
    match exponent with
    | none => (scaled n start).map signed
    | some (down, es) =>
      let e := ofDigits es
      if twoPow 31 ≤ e then
        if n ≠ 0 ∧ !down then none else some (signed ⟨0⟩)
      else (scaled n (if down then start - e else start + e)).map signed

/-- The integer of a numeral, if it is one and lies within 64 signed bits. -/
def Number.toInt64? : Number → Option Int64
  | .natural n => if IsSigned64 n then some (Int64.ofNat n) else none
  | .negative n => some (Int64.ofInt (-(n : Int)))
  | .float _ => none

/-- The integer of a numeral, if it is one and not negative. -/
def Number.toUInt64? : Number → Option UInt64
  | .natural n => some (UInt64.ofNat n)
  | .negative _ => none
  | .float _ => none

/-- A numeral as a double, whatever it is. -/
def Number.toBinary64 : Number → Binary64
  | .natural n => Binary64.ofNat n
  | .negative n => Binary64.ofInt (-(n : Int))
  | .float x => x

/-- How doubles are written: positionally while the point stays within sixteen digits or five
leading zeros, and with a signed exponent beyond. -/
def floatLayout : Shortest.Layout :=
  { greatest := 16, least := -4, positiveMark := "e+", negativeMark := "e-" }

/-- A double as a numeral, or `null` when it is not finite. -/
def writeFloat (x : Binary64) : List Char :=
  if x.isFinite then
    (if x.isNegative then ['-'] else []) ++ floatLayout.write (Shortest.shortest x)
  else "null".toList

/-- An integer as a numeral. -/
def writeInt (n : Int) : List Char :=
  if n < 0 then '-' :: Nat.toDigits 10 n.natAbs else Nat.toDigits 10 n.natAbs

end ActorBus.Json
