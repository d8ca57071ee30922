import ActorBus.Number.Power

/-!
# Double-precision numbers by their bits

A `Binary64` is the 64 bits of an IEEE 754 double: a sign, an 11-bit exponent field and a 52-bit
fraction. Arithmetic is exact rational arithmetic followed by one rounding, `roundRatio`, to the
nearest double with ties to the even one; the few operations here are those that reading a decimal
number needs.
-/

set_option autoImplicit false

namespace ActorBus

/-- A double, by its bits. -/
structure Binary64 where
  bits : UInt64
  deriving DecidableEq, Repr, Inhabited

namespace Binary64

/-- The sign bit is set. -/
def isNegative (x : Binary64) : Bool := twoPow 63 ≤ x.bits.toNat

/-- The eleven bits of the exponent. -/
def exponentField (x : Binary64) : Nat := x.bits.toNat / twoPow 52 % twoPow 11

/-- The fifty-two bits of the fraction. -/
def fraction (x : Binary64) : Nat := x.bits.toNat % twoPow 52

/-- Neither an infinity nor a NaN. -/
def isFinite (x : Binary64) : Bool := x.exponentField ≠ 2047

/-- No number at all. -/
def isNaN (x : Binary64) : Bool := x.exponentField = 2047 ∧ x.fraction ≠ 0

/-- Either of the two zeros. -/
def isZero (x : Binary64) : Bool := x.exponentField = 0 ∧ x.fraction = 0

/-- A finite double is `±significand · 2 ^ scale`. -/
def significand (x : Binary64) : Nat :=
  if x.exponentField = 0 then x.fraction else twoPow 52 + x.fraction

/-- The power of two that `significand` counts. -/
def scale (x : Binary64) : Int := (max x.exponentField 1 : Nat) - 1075

/-- The bits of positive infinity, which are also the least bits that are no finite number's. -/
def infinityBits : Nat := 2047 * twoPow 52

/-- The whole quotient nearest to `num / den`, a tie going to the even one. -/
def nearest (num den : Nat) : Nat :=
  let q := num / den
  let twice := 2 * (num % den)
  if twice < den then q
  else if den < twice then q + 1
  else if q % 2 = 0 then q else q + 1

/-- `num / (den · 2 ^ e)` as a numerator and a denominator. -/
def shifted (num den : Nat) (e : Int) : Nat × Nat :=
  if e < 0 then (num * twoPow e.natAbs, den) else (num, den * twoPow e.natAbs)

/-- The scale at which `num / den` is read: its significand then has fifty-three bits, or the scale
is the least there is. -/
def scaleOf (num den : Nat) : Int :=
  let guess : Int := (Nat.log2 num : Int) - (Nat.log2 den : Int) - 52
  let (n, d) := shifted num den guess
  max (if n / d < twoPow 52 then guess - 1 else guess) (-1074)

/-- The bits of the nonnegative double nearest to `num / den`; what is too great for a finite
double is infinity. -/
def roundRatio (num den : Nat) : Nat :=
  if num = 0 then 0
  else
    let e := scaleOf num den
    let (n, d) := shifted num den e
    min ((e + 1074).toNat * twoPow 52 + nearest n d) infinityBits

/-- A double from its sign and the bits of its magnitude. -/
def ofMagnitude (negative : Bool) (bits : Nat) : Binary64 :=
  ⟨UInt64.ofNat (if negative then twoPow 63 + bits else bits)⟩

/-- The double nearest to a whole number. -/
def ofNat (n : Nat) : Binary64 := ofMagnitude false (roundRatio n 1)

/-- The double nearest to an integer. -/
def ofInt (n : Int) : Binary64 := ofMagnitude (n < 0) (roundRatio n.natAbs 1)

/-- The same magnitude with the other sign. -/
def neg (x : Binary64) : Binary64 := ofMagnitude (!x.isNegative) (x.bits.toNat % twoPow 63)

/-- The product of two finite nonnegative doubles. -/
def mul (x y : Binary64) : Binary64 :=
  let (n, d) := shifted (x.significand * y.significand) 1 (-(x.scale + y.scale))
  ofMagnitude false (roundRatio n d)

/-- The quotient of two finite nonnegative doubles, the second of which is not zero. -/
def div (x y : Binary64) : Binary64 :=
  let (n, d) := shifted x.significand y.significand (y.scale - x.scale)
  ofMagnitude false (roundRatio n d)

/-- The double nearest to a power of ten. -/
def powTen (n : Nat) : Binary64 := ofNat (tenPow n)

/-- Equal as numbers: the two zeros are the same, and a NaN equals nothing. -/
def same (x y : Binary64) : Bool :=
  !x.isNaN && !y.isNaN && (x == y || (x.isZero && y.isZero))

end Binary64

end ActorBus
