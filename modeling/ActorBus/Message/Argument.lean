import ActorBus.Codec.Frames

/-!
# Invocation arguments

An argument travels as two frames: a type tag in text, and the value. Five tags name the kinds of
value that the codec itself writes; under any other tag the value is a record, and its bytes are
kept as they are until someone who knows the type asks for it.

The last argument of a call is its caller's token, a nonnegative integer; `token?` reads it.
-/

set_option autoImplicit false

namespace ActorBus

/-- A decoded argument. -/
inductive Argument where
  | boolean (b : Bool)
  | integer (n : Int64)
  | float (x : Binary64)
  | text (s : String)
  | bytes (data : Bytes)
  /-- A named record in its serialized form. -/
  | record (tag : String) (data : Bytes)
  deriving DecidableEq, Repr

namespace Argument

/-- The tag written before the value. -/
def typeTag : Argument → String
  | .boolean _ => "bool"
  | .integer _ => "i64"
  | .float _ => "f64"
  | .text _ => "string"
  | .bytes _ => "bytes"
  | .record tag _ => tag

/-- A customer as a record argument. -/
def ofCustomer (codec : Codec) (c : Customer) : Argument :=
  .record Customer.typeTag (codec.encode .customer c)

/-- The value of a truth argument. -/
def toBool? : Argument → Option Bool
  | .boolean b => some b
  | _ => none

/-- The value of an integer argument. -/
def toInt64? : Argument → Option Int64
  | .integer n => some n
  | _ => none

/-- The value of a floating-point argument. -/
def toBinary64? : Argument → Option Binary64
  | .float x => some x
  | _ => none

/-- The value of a text argument. -/
def toText? : Argument → Option String
  | .text s => some s
  | _ => none

/-- The value of a bytes argument. -/
def toBytes? : Argument → Option Bytes
  | .bytes data => some data
  | _ => none

/-- The customer of a record argument; its tag is looked at before its bytes. -/
def toCustomer (codec : Codec) (a : Argument) : Except CodecError Customer :=
  match a with
  | .record tag data =>
    if tag = Customer.typeTag then codec.decode .customer data
    else .error (.typeMismatch Customer.typeTag tag)
  | a => .error (.typeMismatch Customer.typeTag a.typeTag)

/-- The frames of an argument: its tag and its value. -/
def frames (codec : Codec) (a : Argument) : Frame × Frame :=
  let value :=
    match a with
    | .boolean b => codec.encode .boolean b
    | .integer n => codec.encode .integer n
    | .float x => codec.encode .float x
    | .text s => codec.encode .text s
    | .bytes data => data
    | .record _ data => data
  (codec.encodeText a.typeTag, value)

/-- Reads a value frame under the tag that came before it. -/
def ofTagged (codec : Codec) (tag : String) (value : Frame) : Except CodecError Argument :=
  if tag = "bool" then (codec.decode .boolean value).map .boolean
  else if tag = "i64" then (codec.decode .integer value).map .integer
  else if tag = "f64" then (codec.decode .float value).map .float
  else if tag = "string" then (codec.decode .text value).map .text
  else if tag = "bytes" then .ok (.bytes value)
  else .ok (.record tag value)

/-- The token that a caller added at the end of the arguments: the last of them, if it is an
integer and not negative. -/
def token? (args : List Argument) : Option Nat :=
  match args.getLast? with
  | some (.integer n) => if 0 ≤ n.toInt then some n.toInt.toNat else none
  | _ => none

end Argument

end ActorBus
