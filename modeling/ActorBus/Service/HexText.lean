import ActorBus.Text.Blank
import ActorBus.Workload.Basic

/-!
# The hexadecimal service

Every text message is read as hexadecimal digits and answered on the out route with the text of
their bytes. What cannot be read is answered too, with the reason, and is no failure of the
workload.
-/

set_option autoImplicit false

namespace ActorBus.Service

variable {ω σ : Type}

/-- The answer to a text; blanks around the digits do not count. -/
def hexReply (text : String) : String :=
  match Hex.decode (Blank.trim text.toList) with
  | .ok bytes => String.ofList (Utf8.decodeLossy bytes)
  | .error fault => fault.message

/-- The workload of the hexadecimal service. -/
def hexText : Workload ω σ := .text fun profile text _ _ => profile.reply (hexReply text)

end ActorBus.Service
