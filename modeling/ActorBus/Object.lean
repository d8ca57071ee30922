import ActorBus.Number.Binary64

/-!
# Objects

The values that travel in payload and value frames. An `ObjectType` names a type that both sides
know, and `ObjectType.Value` is its values; the object formats write and read a value under its
type, and nothing in the bytes says which type that was.
-/

set_option autoImplicit false

namespace ActorBus

/-- A customer record. -/
structure Customer where
  firstname : String
  lastname : String
  deriving DecidableEq, Repr

namespace Customer

/-- The type tag under which a customer travels as a record argument. -/
def typeTag : String := "Customer"

end Customer

/-- The name of an operation on the receiving side. -/
structure MethodHandle where
  owner : String
  method : String
  deriving DecidableEq, Repr

/-- A handle as one text. -/
def MethodHandle.text (h : MethodHandle) : String := h.owner ++ "::" ++ h.method

/-- The types of object that a frame can hold. -/
inductive ObjectType where
  | customer
  | handle
  | boolean
  /-- Signed 64-bit integers. -/
  | integer
  /-- Unsigned 64-bit integers. -/
  | natural
  | float
  | text
  /-- Lists of signed 64-bit integers. -/
  | integers
  /-- A text or nothing. -/
  | optionalText
  deriving DecidableEq, Repr

/-- The values of a type. -/
abbrev ObjectType.Value : ObjectType → Type
  | .customer => Customer
  | .handle => MethodHandle
  | .boolean => Bool
  | .integer => Int64
  | .natural => UInt64
  | .float => Binary64
  | .text => String
  | .integers => List Int64
  | .optionalText => Option String

end ActorBus
