import ActorBus.Silo.Caller
import ActorBus.Workload.Operations

/-!
# The customer store service

One operation, which takes a customer record and the caller's token, saves the record in a store and
answers with its id. The record is decoded and written afresh before it is saved, so the store gets
the one form in which the codec writes a customer, whatever form has come over the bus.

Every failure is returned as an error of the workload; the actor answers the caller.
-/

set_option autoImplicit false

namespace ActorBus.Service

variable {ω σ : Type}

/-- The handle of the operation. -/
def saveHandle : MethodHandle := ⟨"CustomerStore", "save"⟩

/-- The operation. The token is looked for before the arguments are counted. -/
def saveCustomer (store : Store σ) : Operation ω σ := fun profile _ args => do
  match Argument.token? args with
  | none => .fail (.badArgument "missing callback token")
  | some token =>
    match args with
    | [record, _] =>
      let customer ← Handler.ofExcept .codec (record.toCustomer profile.codec)
      let id ← Handler.save store (profile.codec.encode .customer customer)
      let _ ← Handler.completeToken token (.success [.integer id])
      pure ()
    | _ => .fail (.badArgument s!"expected 2 arguments, got {args.length}")

/-- The workload of the customer store service. -/
def customerStore (store : Store σ) : Workload ω σ :=
  (Operations.empty.register saveHandle (saveCustomer store)).workload

/-- Saves a customer by the service at an address, as a client. -/
def requestSave (fuel : Nat) (address : String) (customer : Customer) (s : Silo ω σ) :
    Except CustomerError Int64 × Silo ω σ :=
  let (result, s) :=
    s.request fuel none address saveHandle [Argument.ofCustomer s.codec customer]
  (CustomerError.idOf result, s)

end ActorBus.Service
