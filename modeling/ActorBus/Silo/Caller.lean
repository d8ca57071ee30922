import ActorBus.Client
import ActorBus.Silo.Basic

/-!
# Calls into a silo

A caller outside the silo publishes its call inbound and waits at its token. To wait is to let the
silo settle; a token at which nothing has come by then gets nothing any more, and its caller gives
it up.
-/

set_option autoImplicit false

namespace ActorBus.Silo

variable {ω σ : Type}

/-- Publishes a call; gives its token. -/
def call (address : String) (handle : MethodHandle) (args : List Argument) (s : Silo ω σ) :
    Nat × Silo ω σ :=
  let (token, inbound, callbacks) :=
    s.bus.callbacks.call s.codec address handle args s.bus.pipe.inbound
  (token, { s with bus := { s.bus.withInbound inbound with callbacks } })

/-- Waits at a token. -/
def await (fuel token : Nat) (s : Silo ω σ) : Callbacks.Answer × Silo ω σ :=
  let s := s.settle fuel
  let (answer, callbacks) := s.bus.callbacks.take token
  let callbacks :=
    match answer with
    | .empty => (callbacks.giveUp token).2
    | _ => callbacks
  (answer, { s with bus := { s.bus with callbacks } })

/-- Calls and waits. -/
def ask (fuel : Nat) (address : String) (handle : MethodHandle) (args : List Argument)
    (s : Silo ω σ) : Callbacks.Answer × Silo ω σ :=
  let (token, s) := s.call address handle args
  s.await fuel token

/-- Calls as a client, with or without a limit of time. -/
def request (fuel : Nat) (limit : Option Duration) (address : String) (handle : MethodHandle)
    (args : List Argument) (s : Silo ω σ) : Except CallFailure (List Argument) × Silo ω σ :=
  let (answer, s) := s.ask fuel address handle args
  (answer.result handle limit, s)

end ActorBus.Silo
