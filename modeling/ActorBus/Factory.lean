import ActorBus.Actor.Basic

/-!
# The factory of actors

A blueprint is a name bound to two routes, a codec and a workload; activating it adds an actor to
the bus and starts its thread. Ids are the blueprint's name and a count of its activations, in which
an activation that fails has its number too. Blueprints are kept in the order of their names.

The census counts actors that have been activated and have not departed; it never falls below zero.
An actor is counted before its thread is started, and where the system refuses the thread, it is
taken out again. Where the start of the thread panics, nobody takes it out.

`Factory.turn` is a whole turn of an actor. Other threads can act in the middle of one that takes a
stop order, between the notice and the end of the loop; `Factory.halfTurn` stops there.
-/

set_option autoImplicit false

namespace ActorBus

/-- How to make an actor. -/
structure Blueprint (ω σ : Type) where
  name : String
  inRoute : String
  outRoute : String
  codec : Codec
  workload : Workload ω σ
  /-- The own state of a new workload. -/
  own : ω
  activations : Nat

/-- A count of live actors. -/
structure Census where
  live : Nat
  deriving DecidableEq, Repr

/-- One actor more. -/
def Census.arrive (c : Census) : Census := ⟨c.live + 1⟩

/-- One actor less, if there is one. -/
def Census.depart (c : Census) : Census := ⟨c.live - 1⟩

/-- An actor and how its loop ended, once it has. -/
structure Worker (ω σ : Type) where
  actor : Actor ω σ
  exit : Option ActorExit

/-- Blueprints, the actors made from them, and the census. -/
structure Factory (ω σ : Type) where
  departureAddress : String
  /-- In the order of their names. -/
  blueprints : List (Blueprint ω σ)
  /-- In the order of their activation; those that have been joined are gone. -/
  workers : List (Worker ω σ)
  census : Census

namespace Factory

variable {ω σ : Type}

/-- A factory without blueprints. -/
def empty (departureAddress : String) : Factory ω σ := ⟨departureAddress, [], [], ⟨0⟩⟩

/-- The blueprint of a name. -/
def find? (name : String) (f : Factory ω σ) : Option (Blueprint ω σ) :=
  f.blueprints.find? fun bp => bp.name = name

/-- Puts a blueprint in its place. -/
def insertByName (bp : Blueprint ω σ) : List (Blueprint ω σ) → List (Blueprint ω σ)
  | [] => [bp]
  | other :: rest =>
    if bp.name < other.name then bp :: other :: rest else other :: insertByName bp rest

/-- Registers a blueprint under a new name. -/
def register (bp : Blueprint ω σ) (f : Factory ω σ) : Except FactoryError (Factory ω σ) :=
  if (f.find? bp.name).isSome then .error (.duplicateBlueprint bp.name)
  else .ok { f with blueprints := insertByName bp f.blueprints }

/-- The names of the blueprints. -/
def names (f : Factory ω σ) : List String := f.blueprints.map (·.name)

/-- The id of an activation. -/
def actorId (name : String) (n : Nat) : String := name ++ "#" ++ toString n

/-- Counts an activation of a blueprint. -/
def countActivation (name : String) (f : Factory ω σ) : Factory ω σ :=
  { f with
    blueprints := f.blueprints.map fun bp =>
      if bp.name = name then { bp with activations := bp.activations + 1 } else bp }

/-- What the next actor of a blueprint is. -/
def profileOf (departureAddress : String) (bp : Blueprint ω σ) : Profile :=
  { id := actorId bp.name (bp.activations + 1)
    address := bp.inRoute
    outRoute := bp.outRoute
    codec := bp.codec
    departureAddress }

/-- Takes an actor out of the census whose thread was not started, unless the start has panicked. -/
def unlaunched (failure : Failure BusError) (c : Census) : Census :=
  if failure.isPanic then c else c.depart

/-- Starts one more actor of a blueprint. -/
def activate (name : String) (f : Factory ω σ) (b : Bus σ) :
    Except (Failure FactoryError) String × Factory ω σ × Bus σ :=
  match f.find? name with
  | none => (.error (.error (.unknownBlueprint name)), f, b)
  | some bp =>
    let profile := profileOf f.departureAddress bp
    let f := f.countActivation name
    match Actor.join profile bp.workload bp.own b with
    | .error error => (.error (.error (.bus error)), f, b)
    | .ok (actor, b) =>
      let f := { f with census := f.census.arrive }
      match actor.launch b with
      | .error failure =>
        (.error (failure.map .bus), { f with census := unlaunched failure f.census },
          actor.leave b)
      | .ok () =>
        let (actor, b) := actor.start b
        (.ok profile.id, { f with workers := f.workers ++ [⟨actor, none⟩] }, b)

/-- Starts an actor of each blueprint, up to the first that fails. Those before it go on. -/
def activateAll :
    List String → Factory ω σ → Bus σ →
      Except (Failure FactoryError) (List String) × Factory ω σ × Bus σ
  | [], f, b => (.ok [], f, b)
  | name :: rest, f, b =>
    match f.activate name b with
    | (.error e, f, b) => (.error e, f, b)
    | (.ok id, f, b) =>
      match activateAll rest f b with
      | (.error e, f, b) => (.error e, f, b)
      | (.ok ids, f, b) => (.ok (id :: ids), f, b)

/-- Starts an actor of every blueprint, in the order of their names. -/
def startAll (f : Factory ω σ) (b : Bus σ) :
    Except (Failure FactoryError) (List String) × Factory ω σ × Bus σ :=
  f.activateAll f.names b

/-- Lets a worker take a turn; none when it has nothing to do. An actor whose loop ends leaves the
outbound side. -/
def turn (w : Worker ω σ) (b : Bus σ) : Option (Worker ω σ × Bus σ) :=
  match w.exit with
  | some _ => none
  | none =>
    match w.actor.step b with
    | (.waiting, _, _) => none
    | (.handled, actor, b) => some (⟨actor, none⟩, b)
    | (.exited e, actor, b) => some (⟨actor, some e⟩, actor.leave b)

/-- The end of a loop, with which the actor leaves the outbound side. -/
def finish (e : ActorExit) (a : Actor ω σ) (b : Bus σ) : Worker ω σ × Bus σ :=
  let (_, actor, b) := a.exit e b
  (⟨actor, some e⟩, actor.leave b)

/-- What a worker does without a break that others can see: a turn, but a stop order takes two of
these. With the first the actor takes the order and publishes its notice, and is not running any
more; with the second it leaves its loop. -/
def halfTurn (w : Worker ω σ) (b : Bus σ) : Option (Worker ω σ × Bus σ) :=
  match w.exit with
  | some _ => none
  | none =>
    if w.actor.isRunning then
      match w.actor.read b with
      | (.received .stopped, b) =>
        let (actor, b) := w.actor.announce b
        some (⟨actor, none⟩, b)
      | _ => turn w b
    else some (finish .stopped w.actor b)

/-- Lets the first worker that has something to do take a turn. -/
def stepWorkers : List (Worker ω σ) → Bus σ → Option (List (Worker ω σ) × Bus σ)
  | [], _ => none
  | w :: rest, b =>
    match turn w b with
    | some (w, b) => some (w :: rest, b)
    | none => (stepWorkers rest b).map fun (rest, b) => (w :: rest, b)

/-- Lets one worker take a turn; none when no worker has anything to do. -/
def step (f : Factory ω σ) (b : Bus σ) : Option (Factory ω σ × Bus σ) :=
  (stepWorkers f.workers b).map fun (workers, b) => ({ f with workers }, b)

/-- Lets workers take turns until none has anything to do or the fuel is spent. -/
def settle : Nat → Factory ω σ → Bus σ → Factory ω σ × Bus σ
  | 0, f, b => (f, b)
  | fuel + 1, f, b =>
    match f.step b with
    | some (f, b) => settle fuel f b
    | none => (f, b)

/-- The count of workers whose loop has not ended. -/
def running (f : Factory ω σ) : Nat := f.workers.countP fun w => w.exit.isNone

/-- Takes out the workers whose loop has ended, with their exits. -/
def join (f : Factory ω σ) : List (String × ActorExit) × Factory ω σ :=
  (f.workers.filterMap fun w => w.exit.map fun e => (w.actor.profile.id, e),
    { f with workers := f.workers.filter fun w => w.exit.isNone })

/-- The count of turns that the workers can take before each of them has to wait. -/
def backlog (f : Factory ω σ) (b : Bus σ) : Nat :=
  f.workers.foldr (fun w n => w.actor.backlog b + n) 0

/-- A one-line description. -/
def describe (f : Factory ω σ) (b : Bus σ) : String :=
  "ActorFactory \x7b blueprints: [" ++ Quoted.commaSeparated (f.names.map Quoted.quote) ++
    "], instances: " ++ b.instances.describe ++ ", live: " ++ toString f.census.live ++ " \x7d"

end Factory

end ActorBus
