import ActorBus.Transport.Subscriber

/-!
# Endpoints

An endpoint is a bound address at which whole messages arrive and every subscriber gets a copy. Its
subscribers are numbered in the order in which they joined, and sit in `seats` for good, so that a
number always means the same subscriber.

A subscriber that has left is noticed at the next delivery only; until then it is counted. A closed
endpoint delivers nothing and takes no subscribers, but what was delivered before stays readable.
-/

set_option autoImplicit false

namespace ActorBus

/-- A subscriber as its endpoint knows it. -/
structure Seat where
  /-- The endpoint delivers here. -/
  attached : Bool
  /-- The subscriber has not left. -/
  present : Bool
  subscriber : Subscriber
  deriving DecidableEq, Repr

/-- Takes a delivered message; a seat whose subscriber has left is given up instead. -/
def Seat.deliver (m : Message) (seat : Seat) : Seat :=
  if seat.attached then
    if seat.present then { seat with subscriber := seat.subscriber.push m }
    else { seat with attached := false }
  else seat

/-- A bound address. -/
structure Endpoint where
  name : String
  isClosed : Bool
  seats : List Seat
  deriving DecidableEq, Repr

namespace Endpoint

/-- A new endpoint. -/
def bind (name : String) : Endpoint := ⟨name, false, []⟩

/-- Adds a subscriber without filters; its number is the count of those before it. -/
def join (e : Endpoint) : Except BusError (Nat × Endpoint) :=
  if e.isClosed then .error (.closed e.name)
  else .ok (e.seats.length, { e with seats := e.seats ++ [⟨true, true, .fresh e.name⟩] })

/-- The subscriber of a number. -/
def subscriber? (e : Endpoint) (n : Nat) : Option Subscriber := e.seats[n]?.map (·.subscriber)

/-- Changes the subscriber of a number. -/
def modify (n : Nat) (f : Subscriber → Subscriber) (e : Endpoint) : Endpoint :=
  { e with seats := e.seats.modify n fun seat => { seat with subscriber := f seat.subscriber } }

/-- Lets the subscriber of a number read. Where there is none, nothing can come any more. -/
def read {α : Type} (n : Nat) (f : Subscriber → Receipt α × Subscriber) (e : Endpoint) :
    Receipt α × Endpoint :=
  match e.subscriber? n with
  | none => (.ended, e)
  | some s => ((f s).1, e.modify n fun _ => (f s).2)

/-- Lets the subscriber of a number read a message. -/
def receive (n : Nat) (e : Endpoint) : Receipt Message × Endpoint :=
  e.read n Subscriber.nextMessage

/-- Lets the subscriber of a number read messages until none is left, or `fuel` of them. -/
def readAll (n : Nat) : Nat → Endpoint → List Message × Endpoint
  | 0, e => ([], e)
  | fuel + 1, e =>
    match e.receive n with
    | (.received m, e) => (readAll n fuel e).map (m :: ·) id
    | (_, e) => ([], e)

/-- Lets the subscriber of a number read all messages that are there. -/
def takeAll (n : Nat) (e : Endpoint) : List Message × Endpoint :=
  e.readAll n ((e.subscriber? n).elim 0 (·.unread))

/-- The subscriber of a number leaves. -/
def leave (n : Nat) (e : Endpoint) : Endpoint :=
  { e with seats := e.seats.modify n fun seat => { seat with present := false } }

/-- Adds a subscriber with one filter. -/
def joinFor (filter : Frame) (e : Endpoint) : Except BusError (Nat × Endpoint) :=
  e.join.map fun (n, e) => (n, e.modify n (·.subscribe filter))

/-- Delivers a message to every subscriber. -/
def deliver (m : Message) (e : Endpoint) : Except BusError Endpoint :=
  if e.isClosed then .error (.disposed e.name)
  else .ok { e with seats := e.seats.map (·.deliver m) }

/-- Closes the endpoint. -/
def close (e : Endpoint) : Endpoint :=
  { e with
    isClosed := true
    seats := e.seats.map fun seat => { seat with subscriber := seat.subscriber.disconnect } }

/-- The count of subscribers that the endpoint delivers to. -/
def subscriberCount (e : Endpoint) : Nat :=
  if e.isClosed then 0 else e.seats.countP (·.attached)

/-- A one-line description. -/
def describe (e : Endpoint) : String :=
  "Endpoint \x7b name: " ++ Quoted.quote e.name ++ ", subscribers: " ++
    toString e.subscriberCount ++ " \x7d"

end Endpoint

end ActorBus
