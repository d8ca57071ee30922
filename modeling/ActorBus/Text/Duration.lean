import ActorBus.Number.Power

/-!
# The text of a duration

A span is shown in the largest of the units second, millisecond, microsecond and nanosecond that it
fills at least once, with as many decimals as it has and no trailing zero.
-/

set_option autoImplicit false

namespace ActorBus

/-- A span of time, in whole nanoseconds. -/
structure Duration where
  nanoseconds : Nat
  deriving DecidableEq, Repr

namespace Duration

/-- A span of whole microseconds. -/
def ofMicroseconds (n : Nat) : Duration := ⟨n * 1000⟩

/-- The digits of `rest` out of a unit of `10 ^ places`, without trailing zeros. -/
def decimals (places rest : Nat) : List Char :=
  let digits := Nat.toDigits 10 rest
  let padded := List.replicate (places - digits.length) '0' ++ digits
  (padded.reverse.dropWhile (· == '0')).reverse

/-- A count of units of `10 ^ places` nanoseconds, and the unit's name. -/
def inUnit (places : Nat) (unit : String) (d : Duration) : String :=
  let whole := toString (d.nanoseconds / tenPow places)
  let rest := d.nanoseconds % tenPow places
  if rest = 0 then whole ++ unit
  else whole ++ "." ++ String.ofList (decimals places rest) ++ unit

/-- The text of a span. -/
def render (d : Duration) : String :=
  if 1000000000 ≤ d.nanoseconds then d.inUnit 9 "s"
  else if 1000000 ≤ d.nanoseconds then d.inUnit 6 "ms"
  else if 1000 ≤ d.nanoseconds then d.inUnit 3 "µs"
  else d.inUnit 0 "ns"

end Duration

end ActorBus
