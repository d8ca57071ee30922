import ActorBus.Error
import ActorBus.Text.Utf8

/-!
# Threads

The relay, the census, the monitor and every actor run on a thread of their own, which the system
starts under a name. The system may refuse to, and then the caller gets an error. A name with a
zero byte in it cannot be handed to the system at all: whoever tries panics, on its own thread. So a
call that starts threads can end without a result in two ways, and `Failure` tells them apart.
-/

set_option autoImplicit false

namespace ActorBus

/-- How a call ends that has no result. -/
inductive Failure (ε : Type) where
  /-- The call returns an error. -/
  | error (e : ε)
  /-- The call panics. -/
  | panic (reason : String)
  deriving DecidableEq, Repr

namespace Failure

/-- A failure whose error is passed on by another layer. -/
def map {ε δ : Type} (f : ε → δ) : Failure ε → Failure δ
  | .error e => .error (f e)
  | .panic reason => .panic reason

/-- The call panics. -/
def isPanic {ε : Type} : Failure ε → Bool
  | .error _ => false
  | .panic _ => true

end Failure

/-- What the system makes of the start of a thread. -/
structure Threads where
  /-- The reason for which the system refuses a thread of some name, if it does. -/
  refusal? : String → Option String

namespace Threads

/-- A system that refuses no thread. -/
def willing : Threads := ⟨fun _ => none⟩

/-- The bytes of a thread's name. -/
def nameBytes (thread : String) : Bytes := Utf8.encode thread.toList

/-- What is wrong with a name that has a zero byte in it: where the first one is, and all bytes. -/
def zeroText (thread : String) : String :=
  "thread name may not contain interior null bytes: NulError(" ++
    toString ((nameBytes thread).findIdx (· == 0)) ++ ", [" ++
    Quoted.commaSeparated ((nameBytes thread).map fun b => toString b.toNat) ++ "])"

/-- Starts a thread of some name. An error calls the thread by what it was started for. -/
def launch (thread purpose : String) (t : Threads) : Except (Failure BusError) Unit :=
  if thread.toList.contains '\x00' then .error (.panic (zeroText thread))
  else
    match t.refusal? thread with
    | some reason => .error (.error (.spawn purpose reason))
    | none => .ok ()

end Threads

end ActorBus
