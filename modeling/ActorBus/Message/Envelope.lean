import ActorBus.Message.Argument

/-!
# Messages

What a frame list can say: a stop order, or an envelope for a workload. The writers below produce
the frame lists of the five kinds of message; `ActorBus.Message.Assembly` reads them back.

The frames of a message stand at fixed places. Frame 0 is the address and frame 1 the message type
or payload. An invocation goes on with the method handle, the parameter count, and a type tag and a
value for each argument.
-/

set_option autoImplicit false

namespace ActorBus

/-- A whole message: its frames in order. -/
abbrev Message := List Frame

/-- A call of an operation. -/
structure Invocation where
  handle : MethodHandle
  args : List Argument
  deriving DecidableEq, Repr

/-- A decoded message. -/
structure Envelope where
  address : String
  /-- The second frame, untouched. -/
  kind : Frame
  /-- The second frame as text, where it is text. -/
  messageType : Option String
  invocation : Option Invocation
  /-- The frames after the second one, where they are no invocation. -/
  body : List Frame
  deriving DecidableEq, Repr

/-- What a frame list says. -/
inductive Decoded where
  | stop (address : String)
  | message (envelope : Envelope)
  deriving DecidableEq, Repr

namespace Message

/-- The message type that ends an actor's loop. -/
def stopType : String := "stop"

/-- The message type of an invocation. -/
def invokeType : String := "invoke"

/-- The message type of a departure notice. -/
def departedType : String := "departed"

/-- The address of departure notices where none is configured. -/
def departureAddress : String := "silo.departures"

/-- What stands before the number in a parameter count frame. -/
def countLabel : String := "ParameterCount:"

/-- A text that orders a stop: `stop` in any mixture of upper and lower case. -/
def isStop (text : String) : Bool :=
  text.toList.map Char.toLower == stopType.toList

/-- The text of a parameter count frame. -/
def countText (n : Nat) : String := countLabel ++ toString n

/-- A message of address and text. -/
def simple (codec : Codec) (address text : String) : Message :=
  [codec.encodeText address, codec.encodeText text]

/-- A message of address and object. -/
def typed (codec : Codec) (address : String) (t : ObjectType) (v : t.Value) : Message :=
  [codec.encodeText address, codec.encode t v]

/-- An invocation. -/
def invoke (codec : Codec) (address : String) (handle : MethodHandle) (args : List Argument) :
    Message :=
  [codec.encodeText address, codec.encodeText invokeType, codec.encode .handle handle,
    codec.encodeText (countText args.length)] ++
    args.flatMap fun a => [(a.frames codec).1, (a.frames codec).2]

/-- A stop order. -/
def stop (codec : Codec) (address : String) : Message := simple codec address stopType

/-- The notice that an actor has stopped. -/
def departure (codec : Codec) (address actorId : String) : Message :=
  [codec.encodeText address, codec.encodeText departedType, codec.encodeText actorId]

end Message

end ActorBus
