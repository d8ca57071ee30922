import ActorBus.Threads
import ActorBus.Transport.Publisher

/-!
# The pipe

Two endpoints and a relay between them. Producers publish inbound, actors subscribe outbound, and
the relay carries each frame across as it is. `Pipe.step` moves one frame; the relay ends when the
inbound side has nothing left and can get nothing more, or when the outbound side refuses a message.
Messages that came in before the relay was started are not carried.
-/

set_option autoImplicit false

namespace ActorBus

/-- The relay's two connections. -/
structure Relay where
  /-- Its number among the subscribers of the inbound side. -/
  input : Nat
  output : Publisher
  ended : Bool
  deriving DecidableEq, Repr

/-- Two endpoints, the relay once it has been started, and what it has carried. -/
structure Pipe where
  inbound : Endpoint
  outbound : Endpoint
  relay : Option Relay
  messages : Nat
  frames : Nat
  deriving DecidableEq, Repr

namespace Pipe

/-- A pipe between two new endpoints. -/
def bind (inbound outbound : String) : Pipe := ⟨.bind inbound, .bind outbound, none, 0, 0⟩

/-- The name of the relay's thread. -/
def threadName (p : Pipe) : String := "pipe:" ++ p.inbound.name

/-- Starts the relay, unless that has been done. Where its thread is not started, it leaves the
inbound side again. -/
def start (threads : Threads) (p : Pipe) : Except (Failure BusError) Unit × Pipe :=
  match p.relay with
  | some _ => (.ok (), p)
  | none =>
    match p.inbound.joinFor [] with
    | .error error => (.error (.error error), p)
    | .ok (input, inbound) =>
      match threads.launch p.threadName p.threadName with
      | .error failure => (.error failure, { p with inbound := inbound.leave input })
      | .ok () => (.ok (), { p with inbound, relay := some ⟨input, .fresh, false⟩ })

/-- The relay is at work. -/
def isRunning (p : Pipe) : Bool := p.relay.any fun r => !r.ended

/-- The relay ends and leaves the inbound side. -/
def endRelay (r : Relay) (p : Pipe) : Pipe :=
  { p with inbound := p.inbound.leave r.input, relay := some { r with ended := true } }

/-- Carries one frame across; none when the relay has nothing to do. A frame is counted before it is
sent, and a message with its last frame. -/
def step (p : Pipe) : Option Pipe := do
  let r ← p.relay
  if r.ended then none
  else
    match p.inbound.read r.input Subscriber.nextFrame with
    | (.waiting, _) => none
    | (.ended, inbound) => some ({ p with inbound }.endRelay r)
    | (.received (frame, more), inbound) =>
      let p :=
        { p with
          inbound
          frames := p.frames + 1
          messages := if more then p.messages else p.messages + 1 }
      match r.output.send frame more p.outbound with
      | (.ok (), output, outbound) =>
        some { p with outbound, relay := some { r with output } }
      | (.error _, output, outbound) =>
        some ({ p with outbound }.endRelay { r with output })

/-- Carries frames across until the relay has nothing to do or the fuel is spent. -/
def settle : Nat → Pipe → Pipe
  | 0, p => p
  | fuel + 1, p =>
    match p.step with
    | some p => settle fuel p
    | none => p

/-- Closes both endpoints. -/
def shut (p : Pipe) : Pipe :=
  { p with inbound := p.inbound.close, outbound := p.outbound.close }

/-- The count of frames that the relay could still read, and one step more to end. -/
def backlog (p : Pipe) : Nat :=
  match p.relay with
  | none => 0
  | some r => (p.inbound.subscriber? r.input).elim 0 (·.unread) + 1

/-- Closes both endpoints and waits for the relay to end. -/
def close (p : Pipe) : Pipe :=
  let p := p.shut
  { p.settle p.backlog with relay := none }

end Pipe

end ActorBus
