import ActorBus.Actor.Intake
import ActorBus.Workload.Basic

/-!
# Actors

An actor owns a subscriber on the pipe's outbound side and a publisher on its inbound side, and
handles one message after another. `Actor.step` is one turn of its loop: it reads a message, takes
it in, and hands it to the workload. A stop order ends the loop behind a departure notice; the end
of the pipe ends it without one. A failure of the workload is answered to the caller, if there is
one, and reported to the host, and the loop goes on. A panic ends the loop where it stands.
-/

set_option autoImplicit false

namespace ActorBus

/-- How an actor's loop ended. -/
inductive ActorExit where
  | stopped
  | closed
  | panicked (reason : String)
  deriving DecidableEq, Repr

/-- An actor. -/
structure Actor (ω σ : Type) where
  profile : Profile
  workload : Workload ω σ
  /-- Its number among the subscribers of the outbound side. -/
  inbox : Nat
  state : Local ω
  isRunning : Bool
  /-- The count of messages that the workload has been handed. -/
  dispatched : Nat

/-- What came of a turn. -/
inductive Turn where
  /-- There was no message. -/
  | waiting
  | handled
  | exited (exit : ActorExit)
  deriving DecidableEq, Repr

namespace Actor

variable {ω σ : Type}

/-- Adds a new actor to a bus: its subscriber joins the outbound side. -/
def join (profile : Profile) (workload : Workload ω σ) (own : ω) (b : Bus σ) :
    Except BusError (Actor ω σ × Bus σ) :=
  (b.pipe.outbound.joinFor (profile.codec.encodeText profile.address)).map
    fun (inbox, outbound) =>
      (⟨profile, workload, inbox, .fresh own, false, 0⟩, b.withOutbound outbound)

/-- The name of an actor's thread. -/
def threadName (id : String) : String := "actor:" ++ id

/-- Starts the thread of an actor. -/
def launch (a : Actor ω σ) (b : Bus σ) : Except (Failure BusError) Unit :=
  b.threads.launch (threadName a.profile.id) a.profile.id

/-- Leaves the outbound side. -/
def leave (a : Actor ω σ) (b : Bus σ) : Bus σ :=
  b.withOutbound (b.pipe.outbound.leave a.inbox)

/-- Enters the loop. -/
def start (a : Actor ω σ) (b : Bus σ) : Actor ω σ × Bus σ :=
  ({ a with isRunning := true }, b.report a.profile.id Monitor.waiting)

/-- Leaves the loop. -/
def exit (e : ActorExit) (a : Actor ω σ) (b : Bus σ) : Turn × Actor ω σ × Bus σ :=
  (.exited e, { a with isRunning := false }, b.report a.profile.id Monitor.exiting)

/-- Goes back to waiting. -/
def proceed (a : Actor ω σ) (b : Bus σ) : Turn × Actor ω σ × Bus σ :=
  (.handled, a, b.report a.profile.id Monitor.waiting)

/-- Answers a caller that is still waiting with the text of an error. -/
def failCall (token : Option Nat) (text : String) (b : Bus σ) : Bus σ :=
  match token with
  | none => b
  | some token => { b with callbacks := (b.callbacks.completeIfPending token (.fault text)).2 }

/-- Takes a stop order: the actor is not running any more, and publishes a departure notice on its
output. Where the notice is refused, nothing more is done about it. The loop has still to be left,
and others may act before that. -/
def announce (a : Actor ω σ) (b : Bus σ) : Actor ω σ × Bus σ :=
  let notice := Message.departure a.profile.codec a.profile.departureAddress a.profile.id
  let (_, output, inbound) := a.state.output.sendAll b.pipe.inbound notice
  ({ a with isRunning := false, state := { a.state with output } }, b.withInbound inbound)

/-- Takes a stop order and leaves the loop. -/
def stop (a : Actor ω σ) (b : Bus σ) : Turn × Actor ω σ × Bus σ :=
  let (a, b) := a.announce b
  exit .stopped a b

/-- Reports a message that could not be read. -/
def reject (f : DecodeFailure) (a : Actor ω σ) (b : Bus σ) : Turn × Actor ω σ × Bus σ :=
  proceed a
    (b.report a.profile.id s!"decode failure at frame {f.index}: {f.error.message}")

/-- Hands a message to the workload. -/
def dispatch (e : Envelope) (a : Actor ω σ) (b : Bus σ) : Turn × Actor ω σ × Bus σ :=
  let token := a.workload.token? e
  let program := a.workload.program a.profile e
  let (outcome, state, b) := program.run a.state b
  let a := { a with workload := a.workload.emptied, state, dispatched := a.dispatched + 1 }
  match outcome with
  | .done () => proceed a b
  | .failed error =>
    let b := failCall token error.message b
    proceed a (b.addFault ⟨a.profile.id, e.address, .fault error.message⟩)
  | .panicked reason => (.exited (.panicked reason), a, b)

/-- Goes on with a message that has been taken in. -/
def handle (intake : Intake) (a : Actor ω σ) (b : Bus σ) : Turn × Actor ω σ × Bus σ :=
  match intake with
  | .stopped => stop a b
  | .failed f token => reject f a (failCall token f.error.message b)
  | .complete e =>
    match a.workload.decodePayload a.profile.codec e.kind with
    | .error error => reject ⟨1, error⟩ a b
    | .ok workload => dispatch e { a with workload } b

/-- Reads and takes in a message. -/
def read (a : Actor ω σ) (b : Bus σ) : Receipt Intake × Bus σ :=
  match b.pipe.outbound.read a.inbox Subscriber.nextFrame with
  | (.waiting, outbound) => (.waiting, b.withOutbound outbound)
  | (.ended, outbound) => (.ended, b.withOutbound outbound)
  | (.received (frame, more), outbound) =>
    let b := (b.withOutbound outbound).report a.profile.id Monitor.received
    match b.pipe.outbound.subscriber? a.inbox with
    | none => (.waiting, b)
    | some inbox =>
      let (intake, inbox) := Intake.start a.profile.codec frame more inbox
      (.received intake, b.withOutbound (b.pipe.outbound.modify a.inbox fun _ => inbox))

/-- One turn of the loop, up to its end if it ends. -/
def step (a : Actor ω σ) (b : Bus σ) : Turn × Actor ω σ × Bus σ :=
  match a.read b with
  | (.waiting, b) => (.waiting, a, b)
  | (.ended, b) => exit .closed a b
  | (.received intake, b) => handle intake a b

/-- Takes turns until the loop ends, there is no message, or the fuel is spent. -/
def turns : Nat → Actor ω σ → Bus σ → Option ActorExit × Actor ω σ × Bus σ
  | 0, a, b => (none, a, b)
  | fuel + 1, a, b =>
    match a.step b with
    | (.handled, a, b) => turns fuel a b
    | (.exited e, a, b) => (some e, a, b)
    | (.waiting, a, b) => (none, a, b)

/-- The count of turns that an actor can take before it has to wait. -/
def backlog (a : Actor ω σ) (b : Bus σ) : Nat :=
  (b.pipe.outbound.subscriber? a.inbox).elim 0 (·.unread) + 1

/-- Runs the loop to its end; none if it would have to wait for more messages. -/
def run (a : Actor ω σ) (b : Bus σ) : Option ActorExit × Actor ω σ × Bus σ :=
  let (a, b) := a.start b
  turns (a.backlog b) a b

/-- A one-line description. -/
def describe (a : Actor ω σ) : String :=
  "Actor \x7b id: " ++ Quoted.quote a.profile.id ++ ", address: " ++
    Quoted.quote a.profile.address ++ ", workload: " ++ a.workload.shapeName ++ ", running: " ++
    toString a.isRunning ++ " \x7d"

end Actor

end ActorBus
