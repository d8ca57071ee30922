import ActorBus.Workload.Handler

/-!
# Workloads

A workload handles the messages of one actor and has one of three shapes. A payload workload gets
the second frame, decoded; a route workload gets the whole envelope; an invocation workload gets the
operation's handle and its arguments.

A payload is decoded in a step of its own, before the message is handed over, and waits in a slot
until then. So a payload that cannot be decoded is a failure to read the message, and no failure of
the workload.
-/

set_option autoImplicit false

namespace ActorBus

/-- What an actor is. -/
structure Profile where
  id : String
  /-- The start of the addresses that the actor listens to. -/
  address : String
  /-- The address of its replies. -/
  outRoute : String
  codec : Codec
  departureAddress : String
  deriving DecidableEq, Repr

/-- What a payload workload decodes the second frame as. -/
inductive PayloadType where
  | text
  | object (t : ObjectType)
  deriving DecidableEq, Repr

/-- The payloads of a type. -/
abbrev PayloadType.Value : PayloadType → Type
  | .text => String
  | .object t => t.Value

/-- The payload of a frame. -/
def PayloadType.decode (codec : Codec) : (t : PayloadType) → Frame → Except CodecError t.Value
  | .text, frame => codec.decodeText frame
  | .object t, frame => codec.decode t frame

/-- A workload, with the payload that waits to be handed over. -/
inductive Workload (ω σ : Type) where
  | payload (type : PayloadType) (pending : Option type.Value)
    (handle : Profile → type.Value → Frame → String → Handler ω σ Unit)
  | route (handle : Profile → Envelope → Handler ω σ Unit)
  | invocation (handle : Profile → String → MethodHandle → List Argument → Handler ω σ Unit)

namespace Workload

variable {ω σ : Type}

/-- A workload over message texts. -/
def text (handle : Profile → String → Frame → String → Handler ω σ Unit) : Workload ω σ :=
  .payload .text none handle

/-- A workload over objects of a type. -/
def typed (t : ObjectType) (handle : Profile → t.Value → Frame → String → Handler ω σ Unit) :
    Workload ω σ :=
  .payload (.object t) none handle

/-- The name of a workload's shape. -/
def shapeName : Workload ω σ → String
  | .payload .. => "Payload"
  | .route _ => "Route"
  | .invocation _ => "Invoke"

/-- Decodes a payload and lets it wait. A workload of another shape has nothing to decode. -/
def decodePayload (codec : Codec) (frame : Frame) :
    Workload ω σ → Except CodecError (Workload ω σ)
  | .payload type _ handle =>
    (type.decode codec frame).map fun v => .payload type (some v) handle
  | w => .ok w

/-- The workload after it has been handed what was waiting. -/
def emptied : Workload ω σ → Workload ω σ
  | .payload type _ handle => .payload type none handle
  | w => w

/-- The program for a decoded message. -/
def program (profile : Profile) (e : Envelope) : Workload ω σ → Handler ω σ Unit
  | .payload _ pending handle =>
    match pending with
    | some v => handle profile v e.kind e.address
    | none => .fail (.failed "dispatch without decoded payload")
  | .route handle => handle profile e
  | .invocation handle =>
    match e.invocation with
    | some call => handle profile e.address call.handle call.args
    | none => .fail (.codec (.notAnInvocation (e.messageType.getD "")))

/-- The token whose caller is answered when the program for a message fails: invocation workloads
alone know that an argument is a token. -/
def token? (e : Envelope) : Workload ω σ → Option Nat
  | .invocation _ => e.invocation.bind fun call => Argument.token? call.args
  | _ => none

end Workload

/-- Publishes a text. -/
def Profile.publishText {ω σ : Type} (p : Profile) (address text : String) : Handler ω σ Unit :=
  .publish (.simple p.codec address text)

/-- Publishes a text on the actor's out route. -/
def Profile.reply {ω σ : Type} (p : Profile) (text : String) : Handler ω σ Unit :=
  p.publishText p.outRoute text

end ActorBus
