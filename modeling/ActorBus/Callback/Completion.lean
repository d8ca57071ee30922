import ActorBus.Message.Argument

/-!
# Completions

What a caller gets back for a call: a code, the answer's arguments, and the text of an error. A
`Fault` is the copy of a workload's failed completion that goes to the host.
-/

set_option autoImplicit false

namespace ActorBus

/-- How a call ended. -/
inductive ResultCode where
  | success
  /-- The workload failed. -/
  | fault
  /-- The call never reached the bus. -/
  | disposed
  deriving DecidableEq, Repr

/-- The name of a code. -/
def ResultCode.name : ResultCode → String
  | .success => "Success"
  | .fault => "Fault"
  | .disposed => "Disposed"

/-- The answer to a call. -/
structure Completion where
  code : ResultCode
  payload : List Argument
  error : Option String
  deriving DecidableEq, Repr

namespace Completion

/-- An answer with arguments. -/
def success (payload : List Argument) : Completion := ⟨.success, payload, none⟩

/-- A failure with the text of its error. -/
def fault (text : String) : Completion := ⟨.fault, [], some text⟩

/-- The answer to a call that a bus error kept from the bus. -/
def disposed (error : BusError) : Completion := ⟨.disposed, [], some error.message⟩

/-- The call succeeded. -/
def isSuccess (c : Completion) : Bool := c.code == .success

/-- The arguments of a success, or the error text of anything else; a code that comes without a text
speaks by its name. -/
def result (c : Completion) : Except String (List Argument) :=
  match c.code with
  | .success => .ok c.payload
  | code => .error (c.error.getD code.name)

end Completion

/-- A failure of a workload, as the host hears of it. -/
structure Fault where
  actor : String
  /-- The address of the message that was being handled. -/
  address : String
  completion : Completion
  deriving DecidableEq, Repr

end ActorBus
