import ActorBus.Message.Assembly
import ActorBus.Transport.Subscriber

/-!
# Taking in a message frame by frame

An actor reads a message off its subscriber one frame at a time and assembles it as it goes. A stop
order or an error ends the intake, and what is left of the message is discarded, so that the next
read starts with the next message.
-/

set_option autoImplicit false

namespace ActorBus

/-- How an intake ended. -/
inductive Intake where
  | stopped
  | complete (envelope : Envelope)
  /-- The message cannot be read; the token is that of its caller, as far as it could be told. -/
  | failed (failure : DecodeFailure) (token : Option Nat)
  deriving DecidableEq, Repr

namespace Intake

/-- Closes a message whose last frame had a given place. -/
def close (index : Nat) (s : Assembly) : Intake :=
  match s.finish with
  | .ok envelope => .complete envelope
  | .error e => .failed ⟨index + 1, e⟩ s.token?

/-- Takes the frame of a place and those that follow it. The fuel is the count of frames that may
follow. -/
def take (codec : Codec) : Nat → Nat → Frame → Bool → Assembly → Subscriber → Intake × Subscriber
  | fuel, index, frame, more, s, inbox =>
    match s.accept codec index frame with
    | (_, .ok .stop) => (.stopped, inbox.drain.2)
    | (s, .error e) => (.failed ⟨index, e⟩ s.token?, inbox.drain.2)
    | (s, .ok .proceed) =>
      match fuel, more with
      | fuel + 1, true =>
        match inbox.nextFrame with
        | (.received (frame, more), inbox) => take codec fuel (index + 1) frame more s inbox
        | (_, inbox) => (close index s, inbox)
      | _, _ => (close index s, inbox)

/-- Takes in the message whose first frame has just been read. -/
def start (codec : Codec) (frame : Frame) (more : Bool) (inbox : Subscriber) :
    Intake × Subscriber :=
  take codec inbox.current.length 0 frame more .empty inbox

end Intake

end ActorBus
