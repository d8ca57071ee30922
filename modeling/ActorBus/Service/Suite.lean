import ActorBus.Service.CustomerStore
import ActorBus.Service.Echo
import ActorBus.Service.HexText
import ActorBus.Service.LineJournal

/-!
# A silo of four services

The echo, hexadecimal, customer store and line journal services in one running silo, each under its
own address, with a constructor for the journal's writers. `suiteShutdown` stops the services by
stop orders before it stops the silo, so that their actors depart.
-/

set_option autoImplicit false

namespace ActorBus.Service

variable {ω σ : Type}

/-- The address of the echo service. -/
def echoAddress : String := "XXXX"

/-- The address of the hexadecimal service. -/
def hexAddress : String := "hex"

/-- The address of the customer store service. -/
def customerAddress : String := "customers"

/-- The address of the line journal service. -/
def journalAddress : String := "lines"

/-- The address of a service's answers. -/
def replyAddress (address : String) : String := "reply." ++ address

/-- The addresses of all services, in the order in which they are stopped. -/
def addresses : List String := [echoAddress, hexAddress, customerAddress, journalAddress]

/-- A blueprint of a service. -/
def blueprint (codec : Codec) (own : ω) (name address : String) (workload : Workload ω σ) :
    Blueprint ω σ where
  name
  inRoute := address
  outRoute := replyAddress address
  codec
  workload
  own
  activations := 0

/-- The blueprints of all services. -/
def blueprints (codec : Codec) (own : ω) (writer : Slot ω (Option LineWriter))
    (lines : Slot σ (List String)) (store : Store σ) : List (Blueprint ω σ) :=
  [blueprint codec own "echo" echoAddress echo, blueprint codec own "hex" hexAddress hexText,
    blueprint codec own "customers" customerAddress (customerStore store),
    blueprint codec own "reader" journalAddress (lineJournal writer lines)]

/-- Registers the services and what they construct. -/
def registerSuite (own : ω) (writer : Slot ω (Option LineWriter)) (lines : Slot σ (List String))
    (store : Store σ) (s : Silo ω σ) : Except SiloError (Silo ω σ) := do
  let s ← (blueprints s.codec own writer lines store).foldlM (fun s bp => s.register bp) s
  s.registerInstance writerName (Instances.writerConstructor writerName)

/-- A running silo of the services. -/
def startSuite (threads : Threads) (config : Config) (own : ω) (surroundings : σ)
    (writer : Slot ω (Option LineWriter)) (lines : Slot σ (List String)) (store : Store σ) :
    Except (Failure SiloError) (Silo ω σ) := do
  let silo ← Silo.build threads config surroundings
  let silo ← (registerSuite own writer lines store silo).mapError .error
  match silo.start with
  | (.ok (), silo) => .ok silo
  | (.error e, _) => .error e

/-- Publishes a text to an address of the suite. -/
def say (address text : String) (s : Silo ω σ) : Except BusError (Silo ω σ) :=
  s.publish (.simple s.codec address text)

/-- Says a text to an address and waits for a message at the address of the answer. -/
def askSuite (fuel : Nat) (address reply text : String) (s : Silo ω σ) :
    Except BusError (Receipt Message × Silo ω σ) := do
  let (n, s) ← s.subscribe (s.codec.encodeText reply)
  let s ← say address text s
  let (receipt, s) := (s.settle fuel).read n
  .ok (receipt, { s with bus := s.bus.withOutbound (s.bus.pipe.outbound.leave n) })

/-- Orders the services to stop, lets them depart, and stops the silo. -/
def suiteShutdown (fuel : Nat) (s : Silo ω σ) : List (String × ActorExit) × Silo ω σ :=
  let s := addresses.foldl (fun s address => (s.sendStop address).toOption.getD s) s
  (s.settle fuel).stop

end ActorBus.Service
