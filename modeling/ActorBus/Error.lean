import ActorBus.Binary
import ActorBus.Codec.Basic
import ActorBus.Text.Quoted
import ActorBus.Text.Utf16

/-!
# Errors

One inductive type of causes for each layer, and one `message` for each of them. A layer that passes
on the error of another holds it as it is and adds no words of its own.
-/

set_option autoImplicit false

namespace ActorBus

/-- Failures of an endpoint or of a thread, by its name. -/
inductive BusError where
  /-- A message was completed on an endpoint that is closed. -/
  | disposed (endpoint : String)
  /-- A reader or a new subscriber met a closed endpoint. -/
  | closed (endpoint : String)
  /-- The system did not start a thread. -/
  | spawn (name reason : String)
  deriving DecidableEq, Repr

/-- The wording of a bus error. -/
def BusError.message : BusError → String
  | .disposed endpoint => "Channel disposed: " ++ endpoint
  | .closed endpoint => "Channel closed: " ++ endpoint
  | .spawn name reason => "Failed to spawn thread " ++ name ++ ": " ++ reason

/-- Why a text frame is not text. -/
inductive TextFault where
  | utf8 (fault : Utf8.Fault)
  | utf16 (fault : Utf16.Fault)
  deriving DecidableEq, Repr

/-- The wording of a text fault. -/
def TextFault.message : TextFault → String
  | .utf8 fault => fault.message
  | .utf16 fault => fault.message

/-- The parts of a message that a decoder can miss. -/
inductive MessagePart where
  | address
  | messageType
  | methodHandle
  | parameterCount
  | typeTag
  deriving DecidableEq, Repr

/-- The name of a part. -/
def MessagePart.name : MessagePart → String
  | .address => "address"
  | .messageType => "message type"
  | .methodHandle => "method handle"
  | .parameterCount => "parameter count"
  | .typeTag => "type tag"

/-- Failures to read a frame or a message. -/
inductive CodecError where
  | invalidText (fault : TextFault)
  /-- The bytes are no JSON form of the wanted type. -/
  | invalidJson
  | invalidBinary (fault : Binary.Fault)
  | malformedParameterCount (text : String)
  | parameterCountMismatch (declared received : Nat)
  /-- The message ends between a type tag and its value. -/
  | danglingTypeTag (tag : String)
  | typeMismatch (expected found : String)
  | notAnInvocation (messageType : String)
  | truncated (part : MessagePart)
  deriving DecidableEq, Repr

/-- The wording of a codec error. -/
def CodecError.message : CodecError → String
  | .invalidText fault => "Invalid text frame: " ++ fault.message
  | .invalidJson => "JSON codec error"
  | .invalidBinary fault => "Binary codec error: " ++ fault.message
  | .malformedParameterCount text =>
    "Malformed parameter count frame: " ++ Quoted.quote text
  | .parameterCountMismatch declared received =>
    s!"Parameter count mismatch: declared {declared}, received {received}"
  | .danglingTypeTag tag => "Value frame missing for type tag " ++ Quoted.quote tag
  | .typeMismatch expected found =>
    "Type mismatch: expected " ++ expected ++ ", found " ++ found
  | .notAnInvocation messageType =>
    "Message is not an invocation (message type " ++ Quoted.quote messageType ++ ")"
  | .truncated part => "Message ended before the " ++ part.name ++ " frame"

/-- A codec error and the index of the frame at which it arose; an error that only the end of the
message shows has the index after its last frame. -/
structure DecodeFailure where
  index : Nat
  error : CodecError
  deriving DecidableEq, Repr

/-- The wording of a decode failure. -/
def DecodeFailure.message (f : DecodeFailure) : String :=
  s!"Frame {f.index} failed to decode: " ++ f.error.message

/-- Refusals of a store. -/
inductive StoreError where
  | rejected (reason : String)
  | unavailable (reason : String)
  deriving DecidableEq, Repr

/-- The wording of a store error. -/
def StoreError.message : StoreError → String
  | .rejected reason => "Store rejected record: " ++ reason
  | .unavailable reason => "Store unavailable: " ++ reason

/-- Failures to register, activate or construct something by name. -/
inductive FactoryError where
  | duplicateBlueprint (name : String)
  | unknownBlueprint (name : String)
  | unknownInstance (name : String)
  | interfaceMismatch (name interface : String)
  | construction (name reason : String)
  | bus (error : BusError)
  deriving DecidableEq, Repr

/-- The wording of a factory error. -/
def FactoryError.message : FactoryError → String
  | .duplicateBlueprint name => "Blueprint already registered: " ++ name
  | .unknownBlueprint name => "Unknown blueprint: " ++ name
  | .unknownInstance name => "Unknown instance blueprint: " ++ name
  | .interfaceMismatch name interface =>
    "Instance " ++ name ++ " does not provide " ++ interface
  | .construction name reason =>
    "Instance " ++ name ++ " could not be constructed: " ++ reason
  | .bus error => error.message

/-- Failures of a workload while it handles a message. -/
inductive WorkloadError where
  | unknownOperation (name : String)
  | badArgument (reason : String)
  | codec (error : CodecError)
  | bus (error : BusError)
  | factory (error : FactoryError)
  | store (error : StoreError)
  | failed (reason : String)
  deriving DecidableEq, Repr

/-- The wording of a workload error. -/
def WorkloadError.message : WorkloadError → String
  | .unknownOperation name => "Unknown operation: " ++ name
  | .badArgument reason => "Bad argument: " ++ reason
  | .codec error => error.message
  | .bus error => error.message
  | .factory error => error.message
  | .store error => error.message
  | .failed reason => "Workload failed: " ++ reason

/-- Failures to make a configuration. -/
inductive ConfigError where
  /-- The file is not there or is not text. -/
  | unreadable
  | unparsable
  | invalid (key value : String)
  deriving DecidableEq, Repr

/-- The wording of a configuration error. -/
def ConfigError.message : ConfigError → String
  | .unreadable => "Failed to read config"
  | .unparsable => "Failed to parse config"
  | .invalid key value => "Invalid config value for " ++ key ++ ": " ++ value

/-- Failures of a silo's life cycle. -/
inductive SiloError where
  | alreadyStarted
  | notRunning
  | textEncodingMismatch (blueprint : String) (expected found : TextEncoding)
  | bus (error : BusError)
  | factory (error : FactoryError)
  | config (error : ConfigError)
  deriving DecidableEq, Repr

/-- The wording of a silo error. -/
def SiloError.message : SiloError → String
  | .alreadyStarted => "Silo already started"
  | .notRunning => "Silo is not running"
  | .textEncodingMismatch blueprint expected found =>
    "Blueprint " ++ blueprint ++ " encodes text as " ++ found.name ++ ", the silo as " ++
      expected.name
  | .bus error => error.message
  | .factory error => error.message
  | .config error => error.message

end ActorBus
