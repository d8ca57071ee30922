import ActorBus.Bus
import ActorBus.Properties
import ActorBus.Store

/-!
# Handlers

What a workload does with one message is a program over the things that an actor may reach: its
properties, its output, the callbacks, the collaborators, state of its own and the surroundings.
`Handler` is the tree of such programs and `Handler.run` carries one out. A program cannot touch
anything else on the bus, and each of its paths ends with a result, an error or a panic; what it did
before an error or a panic stays done.
-/

set_option autoImplicit false

namespace ActorBus

/-- What belongs to one actor and its workload can change: properties, output, and `ω`, the state
that a workload keeps to itself. -/
structure Local (ω : Type) where
  properties : Properties
  output : Publisher
  own : ω

/-- A new actor's local state. -/
def Local.fresh {ω : Type} (own : ω) : Local ω := ⟨.empty, .fresh, own⟩

/-- A program of a workload. -/
inductive Handler (ω σ α : Type) : Type where
  | done (value : α)
  | fail (error : WorkloadError)
  | panic (reason : String)
  | getProperties (next : Properties → Handler ω σ α)
  | setProperties (properties : Properties) (next : Handler ω σ α)
  /-- Sends one frame on the output. -/
  | send (frame : Frame) (more : Bool) (next : Except BusError Unit → Handler ω σ α)
  /-- Completes a caller's token. -/
  | complete (token : Nat) (completion : Completion) (next : Bool → Handler ω σ α)
  | getInstances (next : Instances → Handler ω σ α)
  | getOwn (next : ω → Handler ω σ α)
  | setOwn (own : ω) (next : Handler ω σ α)
  | getSurroundings (next : σ → Handler ω σ α)
  | setSurroundings (surroundings : σ) (next : Handler ω σ α)

/-- How a program ended. -/
inductive Outcome (α : Type) where
  | done (value : α)
  | failed (error : WorkloadError)
  | panicked (reason : String)

namespace Handler

variable {ω σ α β : Type}

/-- One program after another. -/
def bind : Handler ω σ α → (α → Handler ω σ β) → Handler ω σ β
  | .done value, k => k value
  | .fail error, _ => .fail error
  | .panic reason, _ => .panic reason
  | .getProperties next, k => .getProperties fun p => (next p).bind k
  | .setProperties p next, k => .setProperties p (next.bind k)
  | .send frame more next, k => .send frame more fun r => (next r).bind k
  | .complete token c next, k => .complete token c fun r => (next r).bind k
  | .getInstances next, k => .getInstances fun is => (next is).bind k
  | .getOwn next, k => .getOwn fun o => (next o).bind k
  | .setOwn o next, k => .setOwn o (next.bind k)
  | .getSurroundings next, k => .getSurroundings fun s => (next s).bind k
  | .setSurroundings s next, k => .setSurroundings s (next.bind k)

instance : Monad (Handler ω σ) where
  pure := .done
  bind := bind

/-- Carries out a program. -/
def run : Handler ω σ α → Local ω → Bus σ → Outcome α × Local ω × Bus σ
  | .done value, l, b => (.done value, l, b)
  | .fail error, l, b => (.failed error, l, b)
  | .panic reason, l, b => (.panicked reason, l, b)
  | .getProperties next, l, b => (next l.properties).run l b
  | .setProperties p next, l, b => next.run { l with properties := p } b
  | .send frame more next, l, b =>
    let (r, output, inbound) := l.output.send frame more b.pipe.inbound
    (next r).run { l with output } (b.withInbound inbound)
  | .complete token c next, l, b =>
    let (r, callbacks) := b.callbacks.complete token c
    (next r).run l { b with callbacks }
  | .getInstances next, l, b => (next b.instances).run l b
  | .getOwn next, l, b => (next l.own).run l b
  | .setOwn o next, l, b => next.run { l with own := o } b
  | .getSurroundings next, l, b => (next b.surroundings).run l b
  | .setSurroundings s next, l, b => next.run l { b with surroundings := s }

/-- A result, or the error of a given kind. -/
def ofExcept {ε : Type} (wrap : ε → WorkloadError) : Except ε α → Handler ω σ α
  | .ok value => .done value
  | .error e => .fail (wrap e)

/-- Sends one frame, and fails if it is refused. -/
def sendFrame (frame : Frame) (more : Bool) : Handler ω σ Unit :=
  .send frame more (ofExcept .bus)

/-- Sends the frames of a message, and fails with the first that is refused. -/
def publish : Message → Handler ω σ Unit
  | [] => .done ()
  | frame :: rest => .send frame (!rest.isEmpty) fun r =>
    match r with
    | .ok () => publish rest
    | .error e => .fail (.bus e)

/-- Completes a token; true if the completion reached a listener. -/
def completeToken (token : Nat) (c : Completion) : Handler ω σ Bool := .complete token c .done

/-- The value of a property. -/
def property (key : String) : Handler ω σ (Option Json.Value) :=
  .getProperties fun p => .done (p.get? key)

/-- Sets a property; gives the value it had. -/
def setProperty (key : String) (v : Json.Value) : Handler ω σ (Option Json.Value) :=
  .getProperties fun p => .setProperties (p.set key v) (.done (p.get? key))

/-- Removes a property; gives the value it had. -/
def removeProperty (key : String) : Handler ω σ (Option Json.Value) :=
  .getProperties fun p => .setProperties (p.remove key) (.done (p.get? key))

/-- Adds one to an integer property; gives the sum, and panics where there is none. -/
def increment (key : String) : Handler ω σ Int64 :=
  .getProperties fun p =>
    match p.increment? key with
    | some (n, p) => .setProperties p (.done n)
    | none => .panic Properties.overflowText

/-- Creates a line writer. -/
def createWriter (name : String) (args : List Argument) : Handler ω σ LineWriter :=
  .getInstances fun is => ofExcept .factory (is.createWriter name args)

/-- A part of the workload's own state. -/
def own (slot : Slot ω α) : Handler ω σ α := .getOwn fun o => .done (slot.get o)

/-- Replaces a part of the workload's own state. -/
def putOwn (slot : Slot ω α) (a : α) : Handler ω σ Unit :=
  .getOwn fun o => .setOwn (slot.put a o) (.done ())

/-- A part of the surroundings. -/
def shared (slot : Slot σ α) : Handler ω σ α := .getSurroundings fun s => .done (slot.get s)

/-- Replaces a part of the surroundings. -/
def putShared (slot : Slot σ α) (a : α) : Handler ω σ Unit :=
  .getSurroundings fun s => .setSurroundings (slot.put a s) (.done ())

/-- Writes a line by a writer to the shared lines; gives the writer after it. -/
def writeLine (lines : Slot σ (List String)) (w : LineWriter) (line : String) :
    Handler ω σ LineWriter := do
  match w.write line (← shared lines) with
  | .error reason => .fail (.failed reason)
  | .ok (w, written) =>
    putShared lines written
    pure w

/-- Saves a record in a store of the surroundings. -/
def save (store : Store σ) (raw : Bytes) : Handler ω σ Int64 :=
  .getSurroundings fun s =>
    .setSurroundings (store.save raw s).2 <|
      match (store.save raw s).1 with
      | .saved id => .done id
      | .refused e => .fail (.store e)
      | .panicked reason => .panic reason

end Handler

end ActorBus
