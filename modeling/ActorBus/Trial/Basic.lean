import ActorBus.Workload.Basic

/-!
# Surroundings for trials

A trial runs actors whose workloads follow a script and note what they see. `Surroundings` is all
that such workloads share: a store of each kind, the lines of the line writers, and the notes, which
are kept by actor.
-/

set_option autoImplicit false

namespace ActorBus.Trial

/-- What a workload noted. -/
inductive Note where
  /-- Something was done that has no result. -/
  | done
  | truth (b : Bool)
  | number (n : Int64)
  | count (n : Nat)
  /-- There was no token to complete. -/
  | noToken
  /-- The value of a property, if it has one. -/
  | property (v : Option Json.Value)
  /-- The value that a property had, if it had one. -/
  | replaced (v : Option Json.Value)
  | object (t : ObjectType) (v : t.Value)
  /-- The profile of an actor. An actor that handles a message is running. -/
  | profile (p : Profile)
  /-- A text message, with the frame that was the text. -/
  | text (text : String) (raw : Frame) (address : String)
  /-- An object message, with the frame that was the object. -/
  | payload (t : ObjectType) (v : t.Value) (raw : Frame) (address : String)
  | envelope (e : Envelope)
  | invocation (address : String) (call : Invocation)
  /-- A call that was handed to an operation. -/
  | operation (address : String) (call : Invocation)

/-- What the workloads of a trial share. -/
structure Surroundings where
  memory : MemoryStore
  scripted : ScriptedStore
  /-- The lines of all line writers. -/
  lines : List String
  /-- The notes of each actor, oldest first. -/
  notes : List (String × List Note)

namespace Surroundings

/-- Nothing has happened. -/
def empty : Surroundings := ⟨.empty, .empty, [], []⟩

/-- The lines of all line writers. -/
def linesSlot : Slot Surroundings (List String) := ⟨(·.lines), fun lines s => { s with lines }⟩

/-- The store that keeps its records. -/
def memoryStore : Store Surroundings :=
  MemoryStore.store.within ⟨(·.memory), fun memory s => { s with memory }⟩

/-- The store that answers as it has been told to. -/
def scriptedStore : Store Surroundings :=
  ScriptedStore.store.within ⟨(·.scripted), fun scripted s => { s with scripted }⟩

/-- The notes of an actor. -/
def notesOf (actor : String) (s : Surroundings) : List Note := (s.notes.lookup actor).getD []

/-- Adds a note of an actor. -/
def addNote (actor : String) (note : Note) (s : Surroundings) : Surroundings :=
  { s with notes := Keyed.put actor (s.notesOf actor ++ [note]) s.notes }

/-- Takes the notes of an actor. -/
def takeNotes (actor : String) (s : Surroundings) : List Note × Surroundings :=
  (s.notesOf actor, { s with notes := Keyed.erase actor s.notes })

end Surroundings

/-- What a workload of a trial keeps to itself. -/
structure Own where
  /-- The writer of a line journal. -/
  writer : Option LineWriter
  /-- The count of messages that have been handed over. -/
  handled : Nat

namespace Own

/-- The state of a new workload. -/
def fresh : Own := ⟨none, 0⟩

/-- The writer of a line journal. -/
def writerSlot : Slot Own (Option LineWriter) := ⟨(·.writer), fun writer o => { o with writer }⟩

/-- The count of messages. -/
def handledSlot : Slot Own Nat := ⟨(·.handled), fun handled o => { o with handled }⟩

end Own

end ActorBus.Trial
