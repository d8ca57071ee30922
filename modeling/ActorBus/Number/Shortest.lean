import ActorBus.Number.Binary64

/-!
# Shortest decimal digits of a double

The reals that round to a given double form an interval around it; its ends belong to it when the
double's significand is even. Of all decimal numbers in that interval, `shortest` picks one with the
fewest digits, and among those the one nearest to the double. It goes through the grids of 1, 2, …
17 digits and tries the two grid points next to the double; if any point of a grid lies in the
interval, so does one of these two.
-/

set_option autoImplicit false

namespace ActorBus.Shortest

/-- The decimal number `0.d₁d₂… · 10 ^ exponent`, by its digits. -/
structure Decimal where
  digits : List Char
  exponent : Int
  deriving DecidableEq, Repr

/-- A double and the two ends of its interval, as fractions over one denominator. -/
structure Interval where
  low : Nat
  value : Nat
  high : Nat
  den : Nat
  closed : Bool

/-- The interval of a finite double that is not zero. Just above a power of two the gap below is
half as wide as the gap above. -/
def interval (x : Binary64) : Interval :=
  let m := 4 * x.significand
  let narrow := x.fraction = 0 ∧ 1 < x.exponentField
  let e := x.scale - 2
  let up := if e < 0 then 1 else twoPow e.natAbs
  let down := if e < 0 then twoPow e.natAbs else 1
  { low := (m - if narrow then 1 else 2) * up, value := m * up, high := (m + 2) * up,
    den := down, closed := x.significand % 2 = 0 }

/-- The exponent `p` with `10 ^ (p - 1) ≤ num / den < 10 ^ p`, for a fraction that is no power of
ten below one. -/
def magnitude (num den : Nat) : Int :=
  if den ≤ num then ((Nat.toDigits 10 (num / den)).length : Int)
  else 1 - ((Nat.toDigits 10 (den / num)).length : Int)

/-- The grid points of unit `10 ^ g` that lie in the interval and are next to the value, the nearer
one first; a tie puts the even one first. -/
def onGrid (i : Interval) (g : Int) : List Nat :=
  let up := if g < 0 then tenPow g.natAbs else 1
  let unit := i.den * if g < 0 then 1 else tenPow g.natAbs
  let below := i.value * up / unit
  let above := below + 1
  let inside := fun c =>
    if i.closed then decide (i.low * up ≤ c * unit ∧ c * unit ≤ i.high * up)
    else decide (i.low * up < c * unit ∧ c * unit < i.high * up)
  let toBelow := i.value * up - below * unit
  let toAbove := above * unit - i.value * up
  let order :=
    if toBelow < toAbove ∨ (toBelow = toAbove ∧ below % 2 = 0) then [below, above]
    else [above, below]
  order.filter inside

/-- Searches the grids of `n`, `n + 1`, … digits, `tries` of them. -/
def search (i : Interval) (p : Int) : Nat → Nat → Nat × Int
  | 0, n => (i.value / i.den, n)
  | tries + 1, n =>
    match onGrid i (p - n) with
    | c :: _ => (c, p - n)
    | [] => search i p tries (n + 1)

/-- A digit row without the zeros at its end, but for a row of one digit. -/
def trimZeros (ds : List Char) : List Char :=
  match (ds.reverse.dropWhile (· == '0')).reverse with
  | [] => ['0']
  | ds => ds

/-- The shortest digits of a finite double's magnitude. -/
def shortest (x : Binary64) : Decimal :=
  if x.isZero then ⟨['0'], 1⟩
  else
    let i := interval x
    let (c, g) := search i (magnitude i.value i.den) 17 1
    let ds := Nat.toDigits 10 c
    ⟨trimZeros ds, g + ds.length⟩

/-- Where a layout puts the point and what it writes instead when the point would be far away. -/
structure Layout where
  /-- Exponents up to this one are written positionally. -/
  greatest : Int
  /-- Exponents from this one on are written positionally. -/
  least : Int
  /-- The text between digits and exponent, by the exponent's sign. -/
  positiveMark : String
  negativeMark : String
  deriving DecidableEq, Repr

/-- Writes a decimal without an exponent and with at least one digit on each side of the point. -/
def positional (d : Decimal) : List Char :=
  if d.exponent ≤ 0 then ['0', '.'] ++ List.replicate d.exponent.natAbs '0' ++ d.digits
  else
    let k := d.exponent.toNat
    if d.digits.length ≤ k then
      d.digits ++ List.replicate (k - d.digits.length) '0' ++ ['.', '0']
    else d.digits.take k ++ ['.'] ++ d.digits.drop k

/-- Writes a decimal with one digit before the point, and an exponent. -/
def scientific (layout : Layout) (d : Decimal) : List Char :=
  let e := d.exponent - 1
  let mark := if e < 0 then layout.negativeMark else layout.positiveMark
  let mantissa :=
    match d.digits with
    | [] => []
    | [c] => [c]
    | c :: rest => c :: '.' :: rest
  mantissa ++ mark.toList ++ Nat.toDigits 10 e.natAbs

/-- Writes a decimal as the layout says. -/
def Layout.write (layout : Layout) (d : Decimal) : List Char :=
  if layout.least ≤ d.exponent ∧ d.exponent ≤ layout.greatest then positional d
  else scientific layout d

end ActorBus.Shortest
