import ActorBus.Callback.Table
import ActorBus.Instances
import ActorBus.Monitor
import ActorBus.Transport.Pipe

/-!
# The bus

Everything that actors share: the pipe between them, the table of callbacks, the constructors of
local collaborators, the monitor, the list of faults, the system that starts their threads, and the
surroundings `σ`, which is whatever stands outside the bus and workloads reach all the same, such as
stores.
-/

set_option autoImplicit false

namespace ActorBus

/-- What the actors of one bus share. -/
structure Bus (σ : Type) where
  pipe : Pipe
  callbacks : Callbacks
  instances : Instances
  monitor : Monitor
  /-- The faults that the host has not taken; none when nobody listens. -/
  faults : Option (List Fault)
  threads : Threads
  surroundings : σ

namespace Bus

variable {σ : Type}

/-- A bus on two new endpoints, with a fault listener and without a monitor. The system refuses no
thread. -/
def bind (inbound outbound : String) (surroundings : σ) : Bus σ :=
  ⟨.bind inbound outbound, .empty, .empty, .off, some [], .willing, surroundings⟩

/-- Changes the inbound endpoint. -/
def withInbound (b : Bus σ) (e : Endpoint) : Bus σ :=
  { b with pipe := { b.pipe with inbound := e } }

/-- Changes the outbound endpoint. -/
def withOutbound (b : Bus σ) (e : Endpoint) : Bus σ :=
  { b with pipe := { b.pipe with outbound := e } }

/-- Takes a line of an actor. -/
def report (actor line : String) (b : Bus σ) : Bus σ :=
  { b with monitor := b.monitor.report actor line }

/-- Takes a fault, if somebody listens. -/
def addFault (f : Fault) (b : Bus σ) : Bus σ := { b with faults := b.faults.map (· ++ [f]) }

/-- Publishes a whole message inbound. -/
def publish (m : Message) (b : Bus σ) : Except BusError (Bus σ) :=
  (b.pipe.inbound.publish m).map b.withInbound

end Bus

end ActorBus
