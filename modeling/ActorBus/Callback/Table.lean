import ActorBus.Callback.Completion

/-!
# The table of callbacks

Callers register here and get a token each, counted from 1; whoever answers a call completes its
token. A token is pending from its registration to its first completion, whether or not its listener
is still there, and only the first completion reaches the listener. `entries` keeps every token ever
given out, in order, so the entry of token `t` is the one at place `t - 1`.
-/

set_option autoImplicit false

namespace ActorBus

/-- The receiving end of a token. -/
inductive Listener where
  /-- Nothing has come. -/
  | listening
  /-- A completion has come and has not been taken. -/
  | holding (completion : Completion)
  /-- The completion has been taken. -/
  | served
  /-- The caller has given up. -/
  | gone
  deriving DecidableEq, Repr

/-- A token that has been given out. -/
structure Callback where
  pending : Bool
  listener : Listener
  deriving DecidableEq, Repr

/-- The callbacks that callers and actors share. -/
structure Callbacks where
  entries : List Callback
  deriving DecidableEq, Repr

namespace Callbacks

/-- No token has been given out. -/
def empty : Callbacks := ⟨[]⟩

/-- Gives out the next token. -/
def register (cs : Callbacks) : Nat × Callbacks :=
  (cs.entries.length + 1, ⟨cs.entries ++ [⟨true, .listening⟩]⟩)

/-- The entry of a token. -/
def find? (token : Nat) (cs : Callbacks) : Option Callback :=
  if token = 0 then none else cs.entries[token - 1]?

/-- Replaces the entry of a token. -/
def put (token : Nat) (entry : Callback) (cs : Callbacks) : Callbacks :=
  ⟨cs.entries.set (token - 1) entry⟩

/-- Completes a token; true if the completion reached a listener. An unknown token, one that has
been completed, and one whose caller has given up are answered with false. -/
def complete (token : Nat) (completion : Completion) (cs : Callbacks) : Bool × Callbacks :=
  match cs.find? token with
  | some ⟨true, .listening⟩ => (true, cs.put token ⟨false, .holding completion⟩)
  | some ⟨true, listener⟩ => (false, cs.put token ⟨false, listener⟩)
  | _ => (false, cs)

/-- Completes a token if it is still pending, for an actor that answers on behalf of a workload. -/
def completeIfPending (token : Nat) (completion : Completion) (cs : Callbacks) :
    Bool × Callbacks :=
  if (cs.find? token).any (·.pending) then cs.complete token completion else (false, cs)

/-- The count of pending tokens. -/
def pending (cs : Callbacks) : Nat := cs.entries.countP (·.pending)

/-- What a caller finds when it looks at its token. -/
inductive Answer where
  | completion (c : Completion)
  /-- Nothing yet. -/
  | empty
  /-- The completion has been taken. -/
  | closed
  /-- There is no listener for this token. -/
  | noListener
  deriving DecidableEq, Repr

/-- Takes the completion of a token, if there is one to take. -/
def take (token : Nat) (cs : Callbacks) : Answer × Callbacks :=
  match cs.find? token with
  | none => (.noListener, cs)
  | some entry =>
    match entry.listener with
    | .listening => (.empty, cs)
    | .holding c => (.completion c, cs.put token { entry with listener := .served })
    | .served => (.closed, cs)
    | .gone => (.noListener, cs)

/-- The caller of a token gives up; false if there was no listener. -/
def giveUp (token : Nat) (cs : Callbacks) : Bool × Callbacks :=
  match cs.find? token with
  | none => (false, cs)
  | some entry =>
    if entry.listener = .gone then (false, cs)
    else (true, cs.put token { entry with listener := .gone })

end Callbacks

end ActorBus
