import ActorBus.Json.Value
import ActorBus.Keyed

/-!
# The properties of an actor

A bag of JSON values by key, which only the actor's own workload touches. `increment` counts in
signed 64-bit integers: what is no such integer counts as zero, and the step beyond the greatest is
a panic that leaves the bag as it was.
-/

set_option autoImplicit false

namespace ActorBus

/-- Values by key. No key has two entries. -/
structure Properties where
  entries : List (String × Json.Value)
  deriving Repr

namespace Properties

/-- No property. -/
def empty : Properties := ⟨[]⟩

/-- The value of a key. -/
def get? (key : String) (p : Properties) : Option Json.Value := p.entries.lookup key

/-- Sets the value of a key. -/
def set (key : String) (v : Json.Value) (p : Properties) : Properties := ⟨Keyed.put key v p.entries⟩

/-- Removes a key. -/
def remove (key : String) (p : Properties) : Properties := ⟨Keyed.erase key p.entries⟩

/-- The value of a key, read as a type. -/
def getAs? (t : ObjectType) (key : String) (p : Properties) : Option t.Value :=
  (p.get? key).bind (Json.Value.as? t)

/-- The text of the panic of an integer sum that leaves its range. -/
def overflowText : String := "attempt to add with overflow"

/-- Adds one to the integer of a key; none when the sum is beyond 64 signed bits. -/
def increment? (key : String) (p : Properties) : Option (Int64 × Properties) :=
  let old := ((p.get? key).bind (·.toInt64?)).getD 0
  let next := old.toInt + 1
  if IsSigned64 next then some (Int64.ofInt next, p.set key (.integer next)) else none

/-- The count of properties. -/
def size (p : Properties) : Nat := p.entries.length

/-- Every key of the first bag has an equal value in the second. -/
def within (p q : Properties) : Bool :=
  p.entries.all fun (key, v) => (q.get? key).any v.same

/-- The same keys with equal values. -/
def same (p q : Properties) : Bool := p.size = q.size && p.within q

end Properties

end ActorBus
