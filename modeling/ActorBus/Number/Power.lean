/-!
# Powers and ranges

The powers that number formats are made of, and the ranges of 64-bit integers.
-/

set_option autoImplicit false

namespace ActorBus

/-- Two to the power of `n`. -/
def twoPow (n : Nat) : Nat := Nat.pow 2 n

/-- Ten to the power of `n`. -/
def tenPow (n : Nat) : Nat := Nat.pow 10 n

/-- An integer of 64 signed bits. -/
abbrev IsSigned64 (n : Int) : Prop := -9223372036854775808 ≤ n ∧ n ≤ 9223372036854775807

/-- An integer of 64 bits without a sign. -/
abbrev IsUnsigned64 (n : Int) : Prop := 0 ≤ n ∧ n ≤ 18446744073709551615

end ActorBus
