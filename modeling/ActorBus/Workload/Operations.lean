import ActorBus.Keyed
import ActorBus.Workload.Basic

/-!
# Operations by handle

An operation registry is an invocation workload that looks its operations up by owner and method.
Registering a handle again replaces its operation.
-/

set_option autoImplicit false

namespace ActorBus

/-- What an operation does with its address and arguments. -/
abbrev Operation (ω σ : Type) := Profile → String → List Argument → Handler ω σ Unit

/-- The operations of an actor. No handle has two. -/
structure Operations (ω σ : Type) where
  entries : List (MethodHandle × Operation ω σ)

namespace Operations

variable {ω σ : Type}

/-- No operation. -/
def empty : Operations ω σ := ⟨[]⟩

/-- Registers an operation. -/
def register (handle : MethodHandle) (op : Operation ω σ) (os : Operations ω σ) :
    Operations ω σ :=
  ⟨Keyed.put handle op os.entries⟩

/-- The operation of a handle. -/
def find? (handle : MethodHandle) (os : Operations ω σ) : Option (Operation ω σ) :=
  os.entries.lookup handle

/-- A handle is registered. -/
def contains (handle : MethodHandle) (os : Operations ω σ) : Bool := (os.find? handle).isSome

/-- The count of operations. -/
def size (os : Operations ω σ) : Nat := os.entries.length

/-- Calls the operation of a handle. -/
def call (os : Operations ω σ) (profile : Profile) (address : String) (handle : MethodHandle)
    (args : List Argument) : Handler ω σ Unit :=
  match os.find? handle with
  | some op => op profile address args
  | none => .fail (.unknownOperation handle.text)

/-- The workload of these operations. -/
def workload (os : Operations ω σ) : Workload ω σ := .invocation os.call

/-- A handle with its two names. -/
def describeHandle (h : MethodHandle) : String :=
  "MethodHandle \x7b owner: " ++ Quoted.quote h.owner ++ ", method: " ++
    Quoted.quote h.method ++ " \x7d"

/-- A one-line description: the registered handles. -/
def describe (os : Operations ω σ) : String :=
  "\x7b" ++ Quoted.commaSeparated (os.entries.map fun entry => describeHandle entry.1) ++ "\x7d"

end Operations

end ActorBus
