import ActorBus.Json.Number
import ActorBus.Object

/-!
# JSON values

The values that an actor keeps in its properties. Integers and doubles are different values even
where they are equal as numbers; `same` compares two doubles as numbers, so the two zeros agree.
`Value.as?` reads a value as one of the object types, by the rules that hold for JSON text.
-/

set_option autoImplicit false

namespace ActorBus.Json

/-- A JSON value. Integers lie between `-2 ^ 63` and `2 ^ 64 - 1`. -/
inductive Value where
  | null
  | boolean (b : Bool)
  | integer (n : Int)
  | float (x : Binary64)
  | text (s : String)
  | array (items : List Value)
  | object (fields : List (String × Value))
  deriving Repr, Inhabited

namespace Value

mutual

/-- Equality of values, doubles being compared as numbers. -/
def same : Value → Value → Bool
  | .null, .null => true
  | .boolean a, .boolean b => a == b
  | .integer a, .integer b => a == b
  | .float a, .float b => a.same b
  | .text a, .text b => a == b
  | .array as, .array bs => sameItems as bs
  | .object as, .object bs => sameFields as bs
  | _, _ => false

/-- Equality of item lists. -/
def sameItems : List Value → List Value → Bool
  | [], [] => true
  | a :: as, b :: bs => same a b && sameItems as bs
  | _, _ => false

/-- Equality of field lists, which are taken to be in the order of their keys. -/
def sameFields : List (String × Value) → List (String × Value) → Bool
  | [], [] => true
  | (k, a) :: as, (l, b) :: bs => k == l && same a b && sameFields as bs
  | _, _ => false

end

/-- A double as a value; what is not finite has none but `null`. -/
def ofFloat (x : Binary64) : Value := if x.isFinite then .float x else .null

/-- A value that is text. -/
def toText? : Value → Option String
  | .text s => some s
  | _ => none

/-- A value that is a signed 64-bit integer. -/
def toInt64? : Value → Option Int64
  | .integer n => if IsSigned64 n then some (Int64.ofInt n) else none
  | _ => none

/-- A record of two texts: an object that has both fields, or an array of exactly the two. -/
def toPair? (firstName secondName : String) : Value → Option (String × String)
  | .object fields => do
    let first ← (← fields.lookup firstName).toText?
    let second ← (← fields.lookup secondName).toText?
    pure (first, second)
  | .array [.text first, .text second] => some (first, second)
  | _ => none

/-- A value read as a type. -/
def as? : (t : ObjectType) → Value → Option t.Value
  | .customer, v => (v.toPair? "firstname" "lastname").map fun (a, b) => ⟨a, b⟩
  | .handle, v => (v.toPair? "owner" "method").map fun (a, b) => ⟨a, b⟩
  | .boolean, .boolean b => some b
  | .boolean, _ => none
  | .integer, v => v.toInt64?
  | .natural, .integer n => if IsUnsigned64 n then some (UInt64.ofNat n.toNat) else none
  | .natural, _ => none
  | .float, .float x => some x
  | .float, .integer n => some (Binary64.ofInt n)
  | .float, _ => none
  | .text, v => v.toText?
  | .integers, .array items => items.mapM toInt64?
  | .integers, _ => none
  | .optionalText, .null => some none
  | .optionalText, v => v.toText?.map some

end Value

end ActorBus.Json
