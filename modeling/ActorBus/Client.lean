import ActorBus.Callback.Caller
import ActorBus.Text.Duration

/-!
# Clients

A client waits for the answer to its call. A failed answer speaks for the actor; a call that nobody
answered, or not in time, failed on the way. Clients of a customer store tell the two apart.
-/

set_option autoImplicit false

namespace ActorBus

/-- Why a call gave its caller no result. -/
inductive CallFailure where
  /-- The completion says so. -/
  | answered (text : String)
  /-- There will be no completion. -/
  | dropped (handle : MethodHandle)
  /-- There was no completion in time. -/
  | timedOut (handle : MethodHandle) (limit : Duration)
  deriving DecidableEq, Repr

/-- The wording of a call's failure. -/
def CallFailure.message : CallFailure → String
  | .answered text => text
  | .dropped handle => handle.text ++ " was dropped without completing"
  | .timedOut handle limit => handle.text ++ " timed out after " ++ limit.render

/-- What a caller makes of what it found at its token, when it waits no longer. -/
def Callbacks.Answer.result (handle : MethodHandle) (limit : Option Duration) :
    Callbacks.Answer → Except CallFailure (List Argument)
  | .completion c => c.result.mapError .answered
  | _ =>
    match limit with
    | some limit => .error (.timedOut handle limit)
    | none => .error (.dropped handle)

/-- Failures of a customer client. -/
inductive CustomerError where
  /-- The actor or its store refused the call. -/
  | store (text : String)
  | codec (error : CodecError)
  /-- The answer holds no id. -/
  | missingId
  /-- There was no answer. -/
  | communication (text : String)
  deriving DecidableEq, Repr

namespace CustomerError

/-- The wording of a customer client's error. -/
def message : CustomerError → String
  | .store text => "Customer store error: " ++ text
  | .codec error => "Customer payload error: " ++ error.message
  | .missingId => "Customer store returned no id"
  | .communication text => "Actor communication error: " ++ text

/-- A call's failure as a customer client sees it. -/
def ofCallFailure : CallFailure → CustomerError
  | .answered text => .store text
  | failure => .communication failure.message

/-- The id in the answer to a save. -/
def idOf (result : Except CallFailure (List Argument)) : Except CustomerError Int64 :=
  match result with
  | .error failure => .error (ofCallFailure failure)
  | .ok payload =>
    match payload.head?.bind (·.toInt64?) with
    | some id => .ok id
    | none => .error .missingId

end CustomerError

end ActorBus
