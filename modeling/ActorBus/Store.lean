import ActorBus.Error

/-!
# Stores

A store takes serialized records and gives each an id. `Store σ` is the boundary: what saving does
to a state `σ` in which the store lives, whatever else that state holds. `MemoryStore` keeps all
records and numbers them from 1; `ScriptedStore` answers as it has been told to, for tests, and
panics on a call that nobody told it of.
-/

set_option autoImplicit false

namespace ActorBus

/-- The outcome of a save. -/
inductive SaveOutcome where
  | saved (id : Int64)
  | refused (error : StoreError)
  | panicked (reason : String)
  deriving DecidableEq, Repr

/-- A store that lives in a state. -/
structure Store (σ : Type) where
  save : Bytes → σ → SaveOutcome × σ

/-- A part of a state that can be read and replaced. -/
structure Slot (σ α : Type) where
  get : σ → α
  put : α → σ → σ

/-- A state that is nothing but the part. -/
def Slot.whole (α : Type) : Slot α α := ⟨id, fun a _ => a⟩

/-- A store within a larger state. -/
def Store.within {σ τ : Type} (slot : Slot σ τ) (store : Store τ) : Store σ where
  save raw s := ((store.save raw (slot.get s)).1, slot.put (store.save raw (slot.get s)).2 s)

/-- Records in the order in which they came. -/
structure MemoryStore where
  records : List Bytes
  deriving DecidableEq, Repr

namespace MemoryStore

/-- No record. -/
def empty : MemoryStore := ⟨[]⟩

/-- Saves a record; its id is the count of records with it. An empty one is refused. -/
def save (raw : Bytes) (s : MemoryStore) : SaveOutcome × MemoryStore :=
  if raw.isEmpty then (.refused (.rejected "empty record"), s)
  else (.saved (Int64.ofNat (s.records.length + 1)), ⟨s.records ++ [raw]⟩)

/-- The record of an id. -/
def get? (id : Int64) (s : MemoryStore) : Option Bytes :=
  if 1 ≤ id.toInt then s.records[id.toInt.toNat - 1]? else none

/-- The count of records. -/
def size (s : MemoryStore) : Nat := s.records.length

/-- The store as such. -/
def store : Store MemoryStore := ⟨save⟩

end MemoryStore

/-- Answers to come, and the records that have been handed over. -/
structure ScriptedStore where
  expectations : List (Except StoreError Int64)
  saved : List Bytes

namespace ScriptedStore

/-- Nothing is expected. -/
def empty : ScriptedStore := ⟨[], []⟩

/-- Expects one more save, and knows its answer. -/
def expect (answer : Except StoreError Int64) (s : ScriptedStore) : ScriptedStore :=
  { s with expectations := s.expectations ++ [answer] }

/-- Hands a record over. An unexpected one is recorded too, before the panic. -/
def save (raw : Bytes) (s : ScriptedStore) : SaveOutcome × ScriptedStore :=
  let saved := s.saved ++ [raw]
  match s.expectations with
  | .ok id :: rest => (.saved id, ⟨rest, saved⟩)
  | .error e :: rest => (.refused e, ⟨rest, saved⟩)
  | [] => (.panicked s!"Unexpected save call ({raw.length} bytes)", ⟨[], saved⟩)

/-- Panics with a text while expectations are left. -/
def verify (s : ScriptedStore) : Option String :=
  if s.expectations.isEmpty then none
  else some s!"Not all expectations were met. {s.expectations.length} remaining"

/-- The store as such. -/
def store : Store ScriptedStore := ⟨save⟩

end ScriptedStore

end ActorBus
