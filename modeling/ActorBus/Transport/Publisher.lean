import ActorBus.Transport.Endpoint

/-!
# The sending half of a connection

A publisher keeps the frames of a message until the last one comes, and hands the message to its
endpoint as a whole. So frames of two publishers never mix, and only the last frame of a message can
be refused. A refused message is lost, and the publisher starts afresh.
-/

set_option autoImplicit false

namespace ActorBus

/-- The sending half of a connection: the frames of a message that is not complete. -/
structure Publisher where
  pending : List Frame
  deriving DecidableEq, Repr

namespace Publisher

/-- A new connection, which has sent nothing. -/
def fresh : Publisher := ⟨[]⟩

/-- Sends a frame of a message, of which more frames follow or not. -/
def send (frame : Frame) (more : Bool) (p : Publisher) (e : Endpoint) :
    Except BusError Unit × Publisher × Endpoint :=
  let frames := p.pending ++ [frame]
  if more then (.ok (), ⟨frames⟩, e)
  else
    match e.deliver frames with
    | .ok e => (.ok (), fresh, e)
    | .error error => (.error error, fresh, e)

/-- Sends the frames of a message, behind the frames that are pending. No frame is no message. -/
def sendAll (p : Publisher) (e : Endpoint) :
    Message → Except BusError Unit × Publisher × Endpoint
  | [] => (.ok (), p, e)
  | frame :: rest =>
    match p.send frame (!rest.isEmpty) e with
    | (.ok (), p, e) => sendAll p e rest
    | refused => refused

/-- A one-line description; a publisher knows its endpoint by name. -/
def describe (endpoint : String) (p : Publisher) : String :=
  "Publisher \x7b endpoint: " ++ Quoted.quote endpoint ++ ", pending: " ++
    toString p.pending.length ++ " \x7d"

end Publisher

/-- Publishes a whole message by a publisher of its own. -/
def Endpoint.publish (m : Message) (e : Endpoint) : Except BusError Endpoint :=
  match Publisher.fresh.sendAll e m with
  | (.ok (), _, e) => .ok e
  | (.error error, _, _) => .error error

end ActorBus
