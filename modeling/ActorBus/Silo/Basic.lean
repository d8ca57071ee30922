import ActorBus.Config
import ActorBus.Factory

/-!
# Silos

A silo is one bus, one factory, and a census that listens for departure notices. It is created with
a configuration, takes blueprints and constructors until it is started, runs, and is stopped once
and for all. A start that fails half-way undoes nothing, and can be tried again; the second attempt
brings a second census.

Three kinds of party act in a running silo: the relay, the census, and the workers. Each has a step
of its own, which is none when the party has nothing to do; `Silo.step` picks the first that has
something to do, and `Silo.settle` takes steps until nobody has.
-/

set_option autoImplicit false

namespace ActorBus

/-- Where a silo is in its life. -/
inductive Phase where
  | created
  | running
  | stopped
  deriving DecidableEq, Repr

/-- A silo whose workloads keep states `ω` and reach surroundings `σ`. -/
structure Silo (ω σ : Type) where
  config : Config
  bus : Bus σ
  factory : Factory ω σ
  /-- The number of the census among the subscribers of the outbound side, while it listens. -/
  census : Option Nat
  /-- The numbers of those that starts which failed behind them have left listening. -/
  forgotten : List Nat
  phase : Phase
  /-- The host has claimed the faults. -/
  faultsClaimed : Bool

namespace Silo

variable {ω σ : Type}

/-- A new silo, once the thread of its monitor has been started if it has one. -/
def create (config : Config) (surroundings : σ) : Silo ω σ where
  config
  bus :=
    { Bus.bind config.inbound config.outbound surroundings with
      monitor := if config.monitor then .listening else .off }
  factory := .empty config.departureAddress
  census := none
  forgotten := []
  phase := .created
  faultsClaimed := false

/-- Creates a silo on a system. It fails where the silo is to have a monitor and the thread of that
is not started. -/
def build (threads : Threads) (config : Config) (surroundings : σ) :
    Except (Failure SiloError) (Silo ω σ) := do
  if config.monitor then
    (threads.launch Monitor.threadName Monitor.threadName).mapError (·.map .bus)
  let silo := create config surroundings
  .ok { silo with bus := { silo.bus with threads } }

/-- The codec of the silo. -/
def codec (s : Silo ω σ) : Codec := s.config.codec

/-- The silo has been started and not stopped. -/
def isRunning (s : Silo ω σ) : Bool := s.phase == .running

/-- Accepts a silo that has not been started. -/
def ensureCreated (s : Silo ω σ) : Except SiloError Unit :=
  match s.phase with
  | .created => .ok ()
  | .running => .error .alreadyStarted
  | .stopped => .error .notRunning

/-- Registers a blueprint. Stop orders and departure notices are written in the silo's text
encoding, so its actors have to read that. -/
def register (bp : Blueprint ω σ) (s : Silo ω σ) : Except SiloError (Silo ω σ) := do
  s.ensureCreated
  if bp.codec.encoding ≠ s.codec.encoding then
    .error (.textEncodingMismatch bp.name s.codec.encoding bp.codec.encoding)
  else
    let factory ← (s.factory.register bp).mapError .factory
    .ok { s with factory }

/-- Registers a constructor of local collaborators. -/
def registerInstance (name : String) (construct : Constructor) (s : Silo ω σ) :
    Except SiloError (Silo ω σ) := do
  s.ensureCreated
  let instances ← (s.bus.instances.register name construct).mapError .factory
  .ok { s with bus := { s.bus with instances } }

/-- Starts the relay. -/
def openRelay (s : Silo ω σ) : Except (Failure SiloError) Unit × Silo ω σ :=
  let (result, pipe) := s.bus.pipe.start s.bus.threads
  (result.mapError (·.map .bus), { s with bus := { s.bus with pipe } })

/-- The name of the census's thread. -/
def censusThread (s : Silo ω σ) : String := "census:" ++ s.config.name

/-- Starts a census, which listens for departure notices. One that a failed start has left behind
goes on beside it. -/
def openCensus (s : Silo ω σ) : Except (Failure SiloError) Unit × Silo ω σ :=
  match s.bus.pipe.outbound.joinFor (s.codec.encodeText s.config.departureAddress) with
  | .error e => (.error (.error (.bus e)), s)
  | .ok (n, outbound) =>
    match s.bus.threads.launch s.censusThread s.censusThread with
    | .error failure =>
      (.error (failure.map .bus), { s with bus := s.bus.withOutbound (outbound.leave n) })
    | .ok () =>
      (.ok (), { s with
        bus := s.bus.withOutbound outbound
        census := some n
        forgotten := s.forgotten ++ s.census.toList })

/-- Starts an actor of every blueprint. -/
def openActors (s : Silo ω σ) : Except (Failure SiloError) Unit × Silo ω σ :=
  match s.factory.startAll s.bus with
  | (.error failure, factory, bus) => (.error (failure.map .factory), { s with factory, bus })
  | (.ok _, factory, bus) => (.ok (), { s with factory, bus, phase := .running })

/-- Starts the relay, then the census, then an actor of every blueprint. Where a later one of these
fails, the earlier ones stay started, and the silo is as little running as before. -/
def start (s : Silo ω σ) : Except (Failure SiloError) Unit × Silo ω σ :=
  match s.ensureCreated with
  | .error e => (.error (.error e), s)
  | .ok () =>
    match s.openRelay with
    | (.error failure, s) => (.error failure, s)
    | (.ok (), s) =>
      match s.openCensus with
      | (.error failure, s) => (.error failure, s)
      | (.ok (), s) => s.openActors

/-- Starts one more actor of a blueprint; gives its id. -/
def activate (name : String) (s : Silo ω σ) : Except (Failure SiloError) String × Silo ω σ :=
  if s.isRunning then
    let (result, factory, bus) := s.factory.activate name s.bus
    (result.mapError (·.map .factory), { s with factory, bus })
  else (.error (.error .notRunning), s)

/-- Publishes a message inbound. -/
def publish (m : Message) (s : Silo ω σ) : Except BusError (Silo ω σ) :=
  (s.bus.publish m).map fun bus => { s with bus }

/-- Orders every actor whose address is a start of the given one to stop. -/
def sendStop (address : String) (s : Silo ω σ) : Except BusError (Silo ω σ) :=
  s.publish (.stop s.codec address)

/-- Adds a subscriber with one filter on the actors' side; gives its number. -/
def subscribe (filter : Frame) (s : Silo ω σ) : Except BusError (Nat × Silo ω σ) :=
  (s.bus.pipe.outbound.joinFor filter).map fun (n, outbound) =>
    (n, { s with bus := s.bus.withOutbound outbound })

/-- Lets a subscriber on the actors' side read a message. -/
def read (n : Nat) (s : Silo ω σ) : Receipt Message × Silo ω σ :=
  let (receipt, outbound) := s.bus.pipe.outbound.receive n
  (receipt, { s with bus := s.bus.withOutbound outbound })

/-- The relay carries a frame. -/
def relayStep (s : Silo ω σ) : Option (Silo ω σ) :=
  s.bus.pipe.step.map fun pipe => { s with bus := { s.bus with pipe } }

/-- A message that tells of a departure. -/
def isDeparture (codec : Codec) (m : Message) : Bool :=
  match Message.decode codec m with
  | .ok (.message e) => e.messageType == some Message.departedType
  | _ => false

/-- The census at a seat reads a message, or leaves when none can come any more; tells whether it
goes on. -/
def listen (n : Nat) (s : Silo ω σ) : Option (Bool × Silo ω σ) :=
  match s.bus.pipe.outbound.receive n with
  | (.waiting, _) => none
  | (.ended, outbound) => some (false, { s with bus := s.bus.withOutbound (outbound.leave n) })
  | (.received m, outbound) =>
    let s := { s with bus := s.bus.withOutbound outbound }
    if isDeparture s.codec m then
      some (true, { s with factory := { s.factory with census := s.factory.census.depart } })
    else some (true, s)

/-- The census takes a step. -/
def censusStep (s : Silo ω σ) : Option (Silo ω σ) := do
  let n ← s.census
  let (goes, s) ← s.listen n
  some (if goes then s else { s with census := none })

/-- A census that has been left behind takes a step. -/
def forgottenStep (k : Nat) (s : Silo ω σ) : Option (Silo ω σ) := do
  let n ← s.forgotten[k]?
  let (goes, s) ← s.listen n
  some (if goes then s else { s with forgotten := s.forgotten.eraseIdx k })

/-- The first census that has something to do takes a step. -/
def listenersStep (s : Silo ω σ) : Option (Silo ω σ) :=
  s.censusStep.or ((List.range s.forgotten.length).findSome? (s.forgottenStep ·))

/-- The first worker that has something to do takes a turn. -/
def workerStep (s : Silo ω σ) : Option (Silo ω σ) :=
  (s.factory.step s.bus).map fun (factory, bus) => { s with factory, bus }

/-- The first party that has something to do takes a step. -/
def step (s : Silo ω σ) : Option (Silo ω σ) := (s.relayStep.or s.listenersStep).or s.workerStep

/-- Takes steps until nobody has anything to do or the fuel is spent. -/
def settle : Nat → Silo ω σ → Silo ω σ
  | 0, s => s
  | fuel + 1, s =>
    match s.step with
    | some s => settle fuel s
    | none => s

/-- The count of actors that have been activated and have not departed. -/
def live (s : Silo ω σ) : Nat := s.factory.census.live

/-- Hands the faults over to the host; false if that has been done. -/
def claimFaults (s : Silo ω σ) : Bool × Silo ω σ :=
  (!s.faultsClaimed, { s with faultsClaimed := true })

/-- Takes up to `n` faults; none if the host has not claimed them. -/
def takeFaults (n : Nat) (s : Silo ω σ) : Option (List Fault) × Silo ω σ :=
  if s.faultsClaimed then
    let faults := s.bus.faults.getD []
    (some (faults.take n), { s with bus := { s.bus with faults := some (faults.drop n) } })
  else (none, s)

/-- The count of messages that the censuses can read, and one step more for each to end. -/
def listenersBacklog (s : Silo ω σ) : Nat :=
  (s.census.toList ++ s.forgotten).foldr
    (fun n count => (s.bus.pipe.outbound.subscriber? n).elim 0 (·.queue.length) + 1 + count) 0

/-- Lets the censuses read what is left. -/
def settleListeners : Nat → Silo ω σ → Silo ω σ
  | 0, s => s
  | fuel + 1, s =>
    match s.listenersStep with
    | some s => settleListeners fuel s
    | none => s

/-- Closes the pipe and waits for the relay, the census and the workers to end; gives the exits in
the order of activation. A census that has been left behind ends as well. A silo that has been
stopped has nothing to say. -/
def stop (s : Silo ω σ) : List (String × ActorExit) × Silo ω σ :=
  if s.phase = .stopped then ([], s)
  else
    let s := { s with bus := { s.bus with pipe := s.bus.pipe.close } }
    let s := s.settleListeners s.listenersBacklog
    let (factory, bus) := s.factory.settle (s.factory.backlog s.bus) s.bus
    let (exits, factory) := factory.join
    (exits, { s with factory, bus, census := none, forgotten := [], phase := .stopped })

end Silo

end ActorBus
