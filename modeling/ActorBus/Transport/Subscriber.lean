import ActorBus.Error
import ActorBus.Message.Envelope

/-!
# The receiving half of a connection

A subscriber holds the messages that were delivered to it and not read yet, and the unread frames of
the message it is reading. It reads only messages whose first frame starts with one of its filters,
byte by byte; a subscriber without filters reads nothing.

Frames can be read one at a time (`nextFrame`) and messages in three ways: by their frames
(`nextMessage`), without waiting (`pollMessage`), and for a limited time (`awaitMessage`). Each of
them takes the rest of a half-read message for a message.
-/

set_option autoImplicit false

namespace ActorBus

/-- The outcome of a read. -/
inductive Receipt (α : Type) where
  | received (value : α)
  /-- Nothing is left to read and nothing can come any more. -/
  | ended
  /-- Nothing is left to read now. -/
  | waiting
  deriving DecidableEq, Repr

/-- The receiving half of a connection. -/
structure Subscriber where
  /-- The name of the endpoint. -/
  endpoint : String
  /-- Messages can still come. -/
  connected : Bool
  /-- The starts of first frames that are read, in the order in which they were asked for. -/
  filters : List Frame
  /-- The messages delivered and not yet looked at, oldest first. -/
  queue : List Message
  /-- The unread frames of the message under reading. -/
  current : List Frame
  deriving DecidableEq, Repr

namespace Subscriber

/-- A new subscriber. -/
def fresh (endpoint : String) : Subscriber := ⟨endpoint, true, [], [], []⟩

/-- Reads messages whose first frame starts with `start`, too. -/
def subscribe (start : Frame) (s : Subscriber) : Subscriber :=
  { s with filters := s.filters ++ [start] }

/-- Reads every message. -/
def subscribeAll (s : Subscriber) : Subscriber := s.subscribe []

/-- A message that passes one of the filters. -/
def accepts (s : Subscriber) (m : Message) : Bool :=
  s.filters.any fun start => start.isPrefixOf (m.headD [])

/-- Puts a delivered message behind the others. -/
def push (m : Message) (s : Subscriber) : Subscriber := { s with queue := s.queue ++ [m] }

/-- No message can come any more. -/
def disconnect (s : Subscriber) : Subscriber := { s with connected := false }

/-- What a read finds when nothing is left. -/
def exhausted {α : Type} (s : Subscriber) : Receipt α :=
  if s.connected then .waiting else .ended

/-- Reads the next frame, and whether more frames of its message follow. -/
def nextFrame (s : Subscriber) : Receipt (Frame × Bool) × Subscriber :=
  match s.current with
  | frame :: rest => (.received (frame, !rest.isEmpty), { s with current := rest })
  | [] =>
    match s.queue.dropWhile fun m => !s.accepts m || m.isEmpty with
    | (frame :: rest) :: queue =>
      (.received (frame, !rest.isEmpty), { s with current := rest, queue })
    | _ => (s.exhausted, { s with queue := [] })

/-- Frames of the message under reading are left. -/
def hasMore (s : Subscriber) : Bool := !s.current.isEmpty

/-- Discards the rest of the message under reading; says how many frames that were. -/
def drain (s : Subscriber) : Nat × Subscriber := (s.current.length, { s with current := [] })

/-- Reads frames up to the last one of a message, behind the frames read before. -/
def collect : Nat → List Frame → Subscriber → Receipt Message × Subscriber
  | 0, frames, s => (.received frames, s)
  | fuel + 1, frames, s =>
    match s.nextFrame with
    | (.received (frame, true), s) => collect fuel (frames ++ [frame]) s
    | (.received (frame, false), s) => (.received (frames ++ [frame]), s)
    | (.ended, s) => (.ended, s)
    | (.waiting, s) => (.waiting, s)

/-- The count of frames that are there to be read. -/
def unread (s : Subscriber) : Nat := s.current.length + s.queue.flatten.length

/-- Reads the rest of the message under reading, or the next whole one, frame by frame. -/
def nextMessage (s : Subscriber) : Receipt Message × Subscriber := collect (s.unread + 1) [] s

/-- Reads the rest of the message under reading, or the next whole one. -/
def pollMessage (s : Subscriber) : Receipt Message × Subscriber :=
  if s.hasMore then (.received s.current, { s with current := [] })
  else
    match s.queue.dropWhile fun m => !s.accepts m with
    | m :: queue => (.received m, { s with queue })
    | [] => (s.exhausted, { s with queue := [] })

/-- Looks through messages as they come, up to the first one that is read. -/
def watch (s : Subscriber) : List Message → Receipt Message × Subscriber
  | [] => (s.exhausted, { s with queue := [] })
  | m :: coming =>
    if s.accepts m then (.received m, { s with queue := coming }) else watch s coming

/-- Reads like `pollMessage`, and if there is nothing yet, looks through the messages that come
before time is up. -/
def awaitMessage (coming : List Message) (s : Subscriber) : Receipt Message × Subscriber :=
  match s.pollMessage with
  | (.waiting, s) => s.watch (s.queue ++ coming)
  | (receipt, s) => (receipt, { s with queue := s.queue ++ coming })

/-- A one-line description. -/
def describe (s : Subscriber) : String :=
  "Subscriber \x7b endpoint: " ++ Quoted.quote s.endpoint ++ ", prefixes: " ++
    toString s.filters.length ++ " \x7d"

end Subscriber

end ActorBus
