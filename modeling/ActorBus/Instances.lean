import ActorBus.LineWriter
import ActorBus.Message.Argument

/-!
# Local collaborators

An instance is an object that an actor creates by name and keeps for itself, without any message on
the bus. Constructors are registered by name; creation asks for an interface and fails when the
object that was built does not have it.
-/

set_option autoImplicit false

namespace ActorBus

/-- What a collaborator can be used as. -/
inductive Interface where
  | lineWriter
  | text
  deriving DecidableEq, Repr

/-- The name of an interface. -/
def Interface.name : Interface → String
  | .lineWriter => "a line writer"
  | .text => "a text"

/-- A collaborator that has been built. -/
inductive Instance where
  | lineWriter (w : LineWriter)
  | text (s : String)
  deriving DecidableEq, Repr

/-- How to build a collaborator from arguments. -/
abbrev Constructor := List Argument → Except FactoryError Instance

/-- The constructors by name. No name has two. -/
structure Instances where
  constructors : List (String × Constructor)

namespace Instances

/-- Nothing is registered. -/
def empty : Instances := ⟨[]⟩

/-- A name is registered. -/
def contains (name : String) (is : Instances) : Bool := (is.constructors.lookup name).isSome

/-- Registers a constructor under a new name. -/
def register (name : String) (construct : Constructor) (is : Instances) :
    Except FactoryError Instances :=
  if is.contains name then .error (.duplicateBlueprint name)
  else .ok ⟨is.constructors ++ [(name, construct)]⟩

/-- Builds what a name stands for. -/
def build (name : String) (args : List Argument) (is : Instances) :
    Except FactoryError Instance :=
  match is.constructors.lookup name with
  | none => .error (.unknownInstance name)
  | some construct => construct args

/-- Creates a line writer. -/
def createWriter (name : String) (args : List Argument) (is : Instances) :
    Except FactoryError LineWriter := do
  match ← is.build name args with
  | .lineWriter w => .ok w
  | .text _ => .error (.interfaceMismatch name Interface.lineWriter.name)

/-- Creates a text. -/
def createText (name : String) (args : List Argument) (is : Instances) :
    Except FactoryError String := do
  match ← is.build name args with
  | .text s => .ok s
  | .lineWriter _ => .error (.interfaceMismatch name Interface.text.name)

/-- Builds line writers for the owner that the first argument names. -/
def writerConstructor (name : String) : Constructor := fun args =>
  match args.head?.bind (·.toText?) with
  | some owner => .ok (.lineWriter (.fresh owner))
  | none => .error (.construction name "missing owner argument")

/-- Registers a constructor of line writers. -/
def registerWriter (name : String) (is : Instances) : Except FactoryError Instances :=
  is.register name (writerConstructor name)

/-- Builds texts of all text arguments, joined by plus signs. -/
def textConstructor : Constructor := fun args =>
  .ok (.text (String.intercalate "+" (args.filterMap (·.toText?))))

/-- A one-line description: the registered names. -/
def describe (is : Instances) : String :=
  "\x7b" ++ Quoted.commaSeparated (is.constructors.map fun c => Quoted.quote c.1) ++ "\x7d"

end Instances

end ActorBus
