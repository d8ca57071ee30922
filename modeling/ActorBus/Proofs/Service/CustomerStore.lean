import ActorBus.Proofs.Actor.Call
import ActorBus.Proofs.Actor.Run
import ActorBus.Service.CustomerStore

/-!
# One call of the customer store

What becomes of a client's call when the actor takes it in: the message reads as the operation with
the client's record and token, the record reads as the client's customer, and the operation saves
the customer's written form and completes the token with its id. Nothing else on the bus changes.
-/

set_option autoImplicit false

namespace ActorBus

/-- No customer has an empty written form. -/
theorem Codec.encode_customer_ne_nil (codec : Codec) (c : Customer) :
    codec.encode .customer c ≠ [] := by
  rw [encode]
  cases codec.format with
  | json =>
    simp only [Json.encode, Json.write, Json.encode_writePair]
    exact List.cons_ne_nil _ _
  | bincode =>
    intro hnil
    have hlength := congrArg List.length hnil
    simp [Binary.encode, Binary.encodeText, length_littleEndian] at hlength

namespace MemoryStore

/-- A record that is not empty is stored behind the others, and its place counted from one is its
id. -/
theorem save_of_ne_nil {raw : Bytes} (hraw : raw ≠ []) (s : MemoryStore) :
    s.save raw = (.saved (Int64.ofNat (s.records.length + 1)), ⟨s.records ++ [raw]⟩) := by
  have hempty : raw.isEmpty = false := by simpa using hraw
  rw [save, hempty]
  rfl

/-- The record of an id is the one at its place, counted from 1. -/
theorem get?_ofNat {k : Nat} (hk : k + 1 < 2 ^ 63) (s : MemoryStore) :
    s.get? (Int64.ofNat (k + 1)) = s.records[k]? := by
  have hint : (Int64.ofNat (k + 1)).toInt = k + 1 := Int64.toInt_ofNat_of_lt hk
  rw [get?, hint, if_pos (by omega)]
  rfl

/-- Later records do not change what is found. -/
theorem get?_append {id : Int64} {raw : Bytes} {s : MemoryStore} (h : s.get? id = some raw)
    (later : List Bytes) : get? id ⟨s.records ++ later⟩ = some raw := by
  rw [get?] at h ⊢
  split at h
  · next hid =>
    have hlt := (List.getElem?_eq_some_iff.mp h).1
    rw [if_pos hid, List.getElem?_append_left hlt]
    exact h
  · cases h

end MemoryStore

namespace Argument

/-- A record reads as a customer under the tag of customers alone. -/
theorem toCustomer_eq_ok_iff (codec : Codec) (a : Argument) (customer : Customer) :
    a.toCustomer codec = .ok customer ↔
      ∃ data, a = .record Customer.typeTag data ∧ codec.decode .customer data = .ok customer := by
  cases a with
  | record tag data =>
    rw [toCustomer]
    split
    · next htag =>
      subst htag
      simp
    · next htag =>
      constructor
      · intro h
        cases h
      · rintro ⟨_, heq, -⟩
        cases heq
        exact absurd rfl htag
  | boolean b | integer n | float x | text s | bytes data => simp [toCustomer]

/-- The token at the end of two arguments is a nonnegative integer. -/
theorem exists_of_token?_pair {a last : Argument} {token : Nat}
    (h : token? [a, last] = some token) :
    ∃ n, last = .integer n ∧ 0 ≤ n.toInt := by
  cases last with
  | integer n =>
    refine ⟨n, rfl, ?_⟩
    by_contra hn
    rw [show token? [a, .integer n] = if 0 ≤ n.toInt then some n.toInt.toNat else none from rfl,
      if_neg hn] at h
    cases h
  | boolean b | float x | text s | bytes data | record tag data => cases h

end Argument

namespace Service

variable {ω σ : Type}

/-- The message of a client's call. -/
def saveMessage (codec : Codec) (address : String) (customer : Customer) (token : Nat) : Message :=
  Message.call codec address saveHandle [Argument.ofCustomer codec customer] token

/-- A client's call is taken in as it was meant. -/
theorem intake_saveMessage (codec : Codec) (address : String) (customer : Customer) (token : Nat) :
    Message.intake codec (saveMessage codec address customer token) =
      .complete ⟨address, codec.encodeText Message.invokeType, some Message.invokeType,
        some ⟨saveHandle, [Argument.ofCustomer codec customer, Argument.ofToken token]⟩, []⟩ := by
  have hhandle : codec.Carries .handle saveHandle :=
    ⟨fun _ => by decide, fun _ => ⟨by decide, by decide⟩⟩
  have hrecord : (Argument.ofCustomer codec customer).reread codec =
      .ok (Argument.ofCustomer codec customer) :=
    Argument.ofTagged_frames codec _ (show Customer.typeTag ∉ Argument.reservedTags by decide)
  have hcount : 2 < UInt64.size := by decide
  exact Message.intake_invoke_of_reread codec address saveHandle hhandle hcount
    (.cons hrecord (.cons (Argument.reread_ofToken codec token) .nil))

/-- What the operation is asked for by its arguments: a record that reads as the customer, whatever
its bytes, and the caller's token behind it. -/
inductive Asks (codec : Codec) : List Argument → Customer → Nat → Prop where
  | save {data : Bytes} {customer : Customer} {n : Int64}
      (hread : codec.decode .customer data = .ok customer) (hn : 0 ≤ n.toInt) :
      Asks codec [.record Customer.typeTag data, .integer n] customer n.toInt.toNat

/-- The arguments of a client's call ask for the save of its customer under its token. -/
theorem asks_of_carries {codec : Codec} {customer : Customer} {token : Nat}
    (hcarries : codec.Carries .customer customer) (htoken : token < 2 ^ 63) :
    Asks codec [Argument.ofCustomer codec customer, Argument.ofToken token] customer token := by
  have hint : (Int64.ofNat token).toInt = token := Int64.toInt_ofNat_of_lt htoken
  have hasks : Asks codec [Argument.ofCustomer codec customer, Argument.ofToken token] customer
      (Int64.ofNat token).toInt.toNat :=
    .save (codec.decode_encode _ _ hcarries) (by omega)
  rwa [hint, Int.toNat_natCast] at hasks

/-- Who asks for a save is the caller that its arguments name. -/
theorem Asks.token? {codec : Codec} {args : List Argument} {customer : Customer} {token : Nat}
    (h : Asks codec args customer token) : Argument.token? args = some token := by
  cases h with
  | save hread hn => exact if_pos hn

/-- The operation, asked to save a customer, hands the store the form in which the codec writes the
customer, and completes the token once the store has an id for it. -/
theorem saveCustomer_of_asks {p : Profile} {args : List Argument} {customer : Customer}
    {token : Nat} (h : Asks p.codec args customer token) (store : Store σ) (address : String) :
    (saveCustomer store p address args : Handler ω σ Unit) =
      (Handler.save store (p.codec.encode .customer customer)).bind fun id =>
        .complete token (.success [.integer id]) fun _ => .done () := by
  cases h with
  | @save data _ n hread hn =>
    have htoken : Argument.token? [.record Customer.typeTag data, .integer n] =
        some n.toInt.toNat := if_pos hn
    have hcustomer : Argument.toCustomer p.codec (.record Customer.typeTag data) =
        .ok customer := by
      rw [Argument.toCustomer, if_pos rfl, hread]
    rw [saveCustomer, htoken]
    simp only [hcustomer]
    rfl

/-- The operation, asked for anything else, does nothing but fail. -/
theorem saveCustomer_of_not_asks {p : Profile} {args : List Argument}
    (h : ∀ customer token, ¬ Asks p.codec args customer token) (store : Store σ)
    (address : String) :
    ∃ error, (saveCustomer store p address args : Handler ω σ Unit) = .fail error := by
  unfold saveCustomer
  cases htoken : Argument.token? args with
  | none => exact ⟨_, rfl⟩
  | some token =>
    simp only
    split
    · next record last =>
      cases hcustomer : record.toCustomer p.codec with
      | error e => exact ⟨.codec e, rfl⟩
      | ok customer =>
        -- a token and a customer are all that is asked for
        exfalso
        rw [Argument.toCustomer_eq_ok_iff] at hcustomer
        obtain ⟨data, rfl, hread⟩ := hcustomer
        obtain ⟨n, rfl, hn⟩ := Argument.exists_of_token?_pair htoken
        exact h customer _ (.save hread hn)
    · exact ⟨_, rfl⟩

/-- The operation saves the client's customer in its written form and answers with the id. -/
theorem run_saveCustomer (slot : Slot σ MemoryStore) (p : Profile) (address : String)
    {customer : Customer} {token : Nat} (hcarries : p.codec.Carries .customer customer)
    (htoken : token < 2 ^ 63) (l : Local ω) (b : Bus σ) :
    (saveCustomer (MemoryStore.store.within slot) p address
        [Argument.ofCustomer p.codec customer, Argument.ofToken token]).run l b =
      (.done (), l, { b with
        callbacks := (b.callbacks.complete token
          (.success [.integer (Int64.ofNat ((slot.get b.surroundings).records.length + 1))])).2
        surroundings := slot.put
          ⟨(slot.get b.surroundings).records ++ [p.codec.encode .customer customer]⟩
          b.surroundings }) := by
  have hsave : ((MemoryStore.store.within slot).save (p.codec.encode .customer customer)
      b.surroundings) = _ :=
    congrArg (fun r => (r.1, slot.put r.2 b.surroundings))
      (MemoryStore.save_of_ne_nil (p.codec.encode_customer_ne_nil customer)
        (slot.get b.surroundings))
  rw [saveCustomer_of_asks (asks_of_carries hcarries htoken)]
  simp only [Handler.save, Handler.bind, Handler.run, hsave]

/-- A save is handled by the program behind saves. -/
theorem program_customerStore (store : Store σ) (p : Profile) {e : Envelope}
    {args : List Argument} (h : e.invocation = some ⟨saveHandle, args⟩) :
    (customerStore store : Workload ω σ).program p e = saveCustomer store p e.address args := by
  have hfind : (Operations.empty.register saveHandle (saveCustomer store)).find? saveHandle =
      some (saveCustomer store : Operation ω σ) := rfl
  rw [customerStore, Operations.workload, Workload.program, h]
  simp only [Operations.call, hfind]

/-- A customer store knows one operation, and fails on everything else. -/
theorem program_customerStore_cases (store : Store σ) (p : Profile) (e : Envelope) :
    (∃ error, (customerStore store : Workload ω σ).program p e = .fail error) ∨
      ∃ args, e.invocation = some ⟨saveHandle, args⟩ ∧
        (customerStore store : Workload ω σ).program p e = saveCustomer store p e.address args := by
  cases hcall : e.invocation with
  | none =>
    left
    rw [customerStore, Operations.workload, Workload.program, hcall]
    exact ⟨_, rfl⟩
  | some call =>
    obtain ⟨handle, args⟩ := call
    by_cases hhandle : handle = saveHandle
    · subst hhandle
      exact .inr ⟨args, rfl, program_customerStore store p hcall⟩
    · left
      rw [customerStore, Operations.workload, Workload.program, hcall]
      simp only [Operations.call, Operations.find?, Operations.register, Keyed.lookup_put,
        if_neg hhandle]
      exact ⟨_, rfl⟩

/-- What a turn of the actor in which it takes in a client's call does to the bus. -/
structure Saved (slot : Slot σ MemoryStore) (p : Profile) (customer : Customer) (token : Nat)
    (b b' : Bus σ) : Prop where
  callbacks : b'.callbacks = (b.callbacks.complete token
    (.success [.integer (Int64.ofNat ((slot.get b.surroundings).records.length + 1))])).2
  surroundings : b'.surroundings = slot.put
    ⟨(slot.get b.surroundings).records ++ [p.codec.encode .customer customer]⟩ b.surroundings

variable {slot : Slot σ MemoryStore}

/-- **A save that comes in** is stored, and its caller is answered with the id. -/
theorem handle_saveMessage (a : Actor ω σ) (b : Bus σ)
    (hworkload : a.workload = customerStore (MemoryStore.store.within slot)) (address : String)
    {customer : Customer} {token : Nat} (hcarries : a.profile.codec.Carries .customer customer)
    (htoken : token < 2 ^ 63) :
    ∃ bus, Actor.handle (Message.intake a.profile.codec
          (saveMessage a.profile.codec address customer token)) a b =
        (.handled, { a with dispatched := a.dispatched + 1 }, bus) ∧
      Saved slot a.profile customer token b bus ∧ bus.pipe = b.pipe := by
  have hload (frame : Frame) : a.workload.decodePayload a.profile.codec frame = .ok a.workload := by
    rw [hworkload]
    rfl
  have hsame : a.workload.emptied = a.workload := by
    rw [hworkload]
    rfl
  have hprogram (kind : Frame) := program_customerStore (ω := ω)
    (MemoryStore.store.within slot) a.profile
    (e := ⟨address, kind, some Message.invokeType, some ⟨saveHandle,
      [Argument.ofCustomer a.profile.codec customer, Argument.ofToken token]⟩, []⟩) rfl
  rw [← hworkload] at hprogram
  have hrun := run_saveCustomer slot a.profile address hcarries htoken a.state b
  rw [intake_saveMessage, Actor.handle]
  simp only [hload, Actor.dispatch, hsame, hprogram, hrun, Actor.proceed]
  exact ⟨_, rfl, ⟨rfl, rfl⟩, rfl⟩

/-- **The actor answers the call that it takes in**, and waits for the next. -/
theorem turn_customerStore {w : Worker ω σ} {b : Bus σ} {c : Subscriber}
    (hexit : w.exit = none)
    (hworkload : w.actor.workload = customerStore (MemoryStore.store.within slot))
    (hseat : b.pipe.outbound.subscriber? w.actor.inbox = some c) (hcur : c.current = [])
    (hfilters : c.filters = [w.actor.profile.codec.encodeText w.actor.profile.address])
    {skipped after : List Message} {address : String} {customer : Customer} {token : Nat}
    (hqueue : c.queue = skipped ++
      saveMessage w.actor.profile.codec address customer token :: after)
    (hskip : ∀ m ∈ skipped, w.actor.profile.hears m = false)
    (hhears : w.actor.profile.hears
      (saveMessage w.actor.profile.codec address customer token) = true)
    (hcarries : w.actor.profile.codec.Carries .customer customer) (htoken : token < 2 ^ 63) :
    ∃ bus, Factory.turn w b =
        some (⟨{ w.actor with dispatched := w.actor.dispatched + 1 }, none⟩, bus) ∧
      Saved slot w.actor.profile customer token b bus ∧
      bus.pipe = (b.withOutbound (b.pipe.outbound.modify w.actor.inbox fun _ =>
        { c with queue := after })).pipe := by
  have hstep := Actor.step_of_hears hseat ⟨hfilters, hcur⟩ hqueue hskip hhears
  obtain ⟨bus, hhandle, hsaved, hpipe⟩ := handle_saveMessage w.actor
    ((b.withOutbound (b.pipe.outbound.modify w.actor.inbox fun _ =>
      { c with queue := after })).report w.actor.profile.id Monitor.received)
    hworkload address hcarries htoken
  rw [hhandle] at hstep
  refine ⟨bus, ?_, ⟨hsaved.callbacks, hsaved.surroundings⟩, hpipe⟩
  rw [Factory.turn, hexit]
  simp only [hstep]

end Service

end ActorBus
