import ActorBus.Workload.Basic

/-!
# The echo service

Every text message is answered on the out route with its number and its text. The number is a
property of the actor, so each actor counts for itself.
-/

set_option autoImplicit false

namespace ActorBus.Service

variable {ω σ : Type}

/-- The property that counts the messages. -/
def countProperty : String := "count"

/-- The answer to the message of a number. -/
def echoReply (n : Int64) (text : String) : String := toString n.toInt ++ ":" ++ text

/-- The workload of the echo service. -/
def echo : Workload ω σ := .text fun profile text _ _ => do
  let n ← Handler.increment countProperty
  profile.reply (echoReply n text)

end ActorBus.Service
