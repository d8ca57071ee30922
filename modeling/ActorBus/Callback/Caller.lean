import ActorBus.Callback.Table
import ActorBus.Transport.Publisher

/-!
# Calling an operation

A call registers a token, adds it to the arguments and publishes the invocation. It always gives a
token: where the endpoint is closed, the token has been completed already and holds the reason.
-/

set_option autoImplicit false

namespace ActorBus

/-- The argument that carries a token. -/
def Argument.ofToken (token : Nat) : Argument := .integer (Int64.ofNat token)

/-- The frames of a call. -/
def Message.call (codec : Codec) (address : String) (handle : MethodHandle)
    (args : List Argument) (token : Nat) : Message :=
  invoke codec address handle (args ++ [Argument.ofToken token])

/-- Publishes a call on an endpoint by a publisher of its own. -/
def Callbacks.call (codec : Codec) (address : String) (handle : MethodHandle)
    (args : List Argument) (e : Endpoint) (cs : Callbacks) : Nat × Endpoint × Callbacks :=
  let (token, cs) := cs.register
  match Publisher.fresh.sendAll e (Message.call codec address handle args token) with
  | (.ok (), _, e) => (token, e, cs)
  | (.error error, _, e) => (token, e, (cs.complete token (.disposed error)).2)

end ActorBus
