import ActorBus.Trial.Basic
import ActorBus.Workload.Operations

/-!
# Scripted workloads

A script is a list of action lists. The workload performs the first list on its first message, the
second on its second, and nothing when the script has run out. Each message and the result of each
action is noted; an action that fails ends the list with its error and is not noted.
-/

set_option autoImplicit false

namespace ActorBus.Trial

/-- Something that a scripted workload does. -/
inductive Action where
  | reply (text : String)
  | publishText (address text : String)
  | publishObject (address : String) (t : ObjectType) (v : t.Value)
  | publishCall (address : String) (handle : MethodHandle) (args : List Argument)
  | publishStop (address : String)
  | publishFrames (frames : Message)
  | sendFrame (frame : Frame) (more : Bool)
  | increment (key : String)
  | setProperty (key : String) (v : Json.Value)
  | property (key : String)
  | removeProperty (key : String)
  /-- Completes the token of the call under way. -/
  | answer (c : Completion)
  | complete (token : Nat) (c : Completion)
  /-- Answers with the sum of the integers among the arguments. -/
  | sum
  /-- Reads an argument as a customer. -/
  | customer (index : Nat)
  | decode (t : ObjectType) (frame : Frame)
  /-- Creates a line writer and writes one line by it. -/
  | writeLine (name : String) (args : List Argument) (line : String)
  | profile
  | save (raw : Bytes)
  | fail (text : String)
  | badArgument (text : String)
  | panic (text : String)

/-- A program of a trial's workload. -/
abbrev Program := Handler Own Surroundings

/-- Notes something for an actor. -/
def note (p : Profile) (n : Note) : Program Unit :=
  .getSurroundings fun s => .setSurroundings (s.addNote p.id n) (.done ())

/-- The sum of some integers from the left; none when it leaves 64 signed bits on the way. -/
def sumFrom (total : Int64) : List Int64 → Option Int64
  | [] => some total
  | n :: rest =>
    let sum := total.toInt + n.toInt
    if IsSigned64 sum then sumFrom (Int64.ofInt sum) rest else none

/-- Publishes a message and has nothing to tell. -/
def publishing (m : Message) : Program Note := do
  Handler.publish m
  pure .done

/-- Answers the caller with the sum of the integers before its token. -/
def answerSum (args : List Argument) : Program Note :=
  match Argument.token? args with
  | none => .fail (.badArgument "token")
  | some token =>
    match sumFrom 0 (args.dropLast.filterMap (·.toInt64?)) with
    | none => .panic Properties.overflowText
    | some n => do
      pure (.truth (← Handler.completeToken token (.success [.integer n])))

/-- Performs an action for an actor, on a message with the given arguments. -/
def perform (p : Profile) (args : List Argument) : Action → Program Note
  | .reply text => publishing (.simple p.codec p.outRoute text)
  | .publishText address text => publishing (.simple p.codec address text)
  | .publishObject address t v => publishing (.typed p.codec address t v)
  | .publishCall address handle args => publishing (.invoke p.codec address handle args)
  | .publishStop address => publishing (.stop p.codec address)
  | .publishFrames frames => publishing frames
  | .sendFrame frame more => do
    Handler.sendFrame frame more
    pure .done
  | .increment key => do pure (.number (← Handler.increment key))
  | .setProperty key v => do pure (.replaced (← Handler.setProperty key v))
  | .property key => do pure (.property (← Handler.property key))
  | .removeProperty key => do pure (.replaced (← Handler.removeProperty key))
  | .answer c =>
    match Argument.token? args with
    | some token => do pure (.truth (← Handler.completeToken token c))
    | none => pure .noToken
  | .complete token c => do pure (.truth (← Handler.completeToken token c))
  | .sum => answerSum args
  | .customer index =>
    match args[index]? with
    | some a => do pure (.object .customer (← Handler.ofExcept .codec (a.toCustomer p.codec)))
    | none => .panic s!"index out of bounds: the len is {args.length} but the index is {index}"
  | .decode t frame => do
    pure (.object t (← Handler.ofExcept .codec (p.codec.decode t frame)))
  | .writeLine name args line => do
    let w ← Handler.createWriter name args
    let w ← Handler.writeLine Surroundings.linesSlot w line
    pure (.count w.written)
  | .profile => pure (.profile p)
  | .save raw => do pure (.number (← Handler.save Surroundings.scriptedStore raw))
  | .fail text => .fail (.failed text)
  | .badArgument text => .fail (.badArgument text)
  | .panic text => .panic text

/-- Performs actions in order, each with its note. -/
def performAll (p : Profile) (args : List Argument) : List Action → Program Unit
  | [] => .done ()
  | a :: rest => do
    let n ← perform p args a
    note p n
    performAll p args rest

/-- Notes a message and goes on to the next list of the script. -/
def follow (script : List (List Action)) (p : Profile) (seen : Note) (args : List Argument) :
    Program Unit := do
  note p seen
  let n ← Handler.own Own.handledSlot
  Handler.putOwn Own.handledSlot (n + 1)
  performAll p args (script[n]?.getD [])

/-- A text workload that follows a script. -/
def textScript (script : List (List Action)) : Workload Own Surroundings :=
  .text fun p text raw address => follow script p (.text text raw address) []

/-- An object workload that follows a script. -/
def typedScript (t : ObjectType) (script : List (List Action)) : Workload Own Surroundings :=
  .typed t fun p v raw address => follow script p (.payload t v raw address) []

/-- A route workload that follows a script. -/
def routeScript (script : List (List Action)) : Workload Own Surroundings :=
  .route fun p e => follow script p (.envelope e) []

/-- An invocation workload that follows a script. -/
def invocationScript (script : List (List Action)) : Workload Own Surroundings :=
  .invocation fun p address handle args =>
    follow script p (.invocation address ⟨handle, args⟩) args

/-- A workload of operations, each of which performs the same actions on every call. -/
def operationsScript (operations : List (MethodHandle × List Action)) :
    Workload Own Surroundings :=
  let add := fun (os : Operations Own Surroundings) (entry : MethodHandle × List Action) =>
    os.register entry.1 fun p address args => do
      note p (.operation address ⟨entry.1, args⟩)
      performAll p args entry.2
  (operations.foldl add .empty).workload

end ActorBus.Trial
