import ActorBus.Proofs.Codec.Afresh
import ActorBus.Proofs.Service.CustomerStore
import ActorBus.Proofs.Workload.Completions

/-!
# A save reaches the store once or not at all

Any store can be watched: a `Watched` state keeps, beside the store's own, the records that the
store has been handed and its answers. `save_is_atomic` says what the operation does to a watched
store, whatever its arguments. It calls the store at most once, and only behind all its checks; what
it hands over is the customer written afresh; and the one completion that it can make is the success
with the store's id.
-/

set_option autoImplicit false

namespace ActorBus

/-- The state of a store, with the calls of the store: what was handed over, and the answer. -/
structure Watched (σ : Type) where
  state : σ
  calls : List (Bytes × SaveOutcome)

/-- A store that answers as it always does, while its calls are written down. -/
def Store.watched {σ : Type} (store : Store σ) : Store (Watched σ) where
  save raw w :=
    let (answer, state) := store.save raw w.state
    (answer, ⟨state, w.calls ++ [(raw, answer)]⟩)

namespace Service

variable {ω σ : Type}

/-- What a store answers is what becomes of the operation. -/
def outcomeOf : SaveOutcome → Outcome Unit
  | .saved _ => .done ()
  | .refused error => .failed (.store error)
  | .panicked reason => .panicked reason

/-- The completions that follow from an answer of the store. -/
def completionsOf (token : Nat) : SaveOutcome → List (Nat × Completion)
  | .saved id => [(token, .success [.integer id])]
  | _ => []

/-- A token is completed with an id exactly where the store has answered with it. -/
theorem completionsOf_eq_singleton_iff (token : Nat) (answer : SaveOutcome) (id : Int64) :
    completionsOf token answer = [(token, .success [.integer id])] ↔ answer = .saved id := by
  cases answer with
  | saved id' => simp [completionsOf, Completion.success]
  | refused error => simp [completionsOf]
  | panicked reason => simp [completionsOf]

/-- Where the store has given no id, nothing is completed. -/
theorem completionsOf_eq_nil (token : Nat) {answer : SaveOutcome}
    (h : ∀ id, answer ≠ .saved id) : completionsOf token answer = [] := by
  cases answer with
  | saved id => exact absurd rfl (h id)
  | refused error => rfl
  | panicked reason => rfl

/-- Arguments ask for one customer and one token. -/
theorem Asks.unique {codec : Codec} {args : List Argument} {customer customer' : Customer}
    {token token' : Nat} (h : Asks codec args customer token)
    (h' : Asks codec args customer' token') : customer = customer' ∧ token = token' := by
  cases h with
  | save hread hn =>
    cases h' with
    | save hread' hn' =>
      have hsame := hread.symm.trans hread'
      cases hsame
      exact ⟨rfl, rfl⟩

/-- The customer that is asked to be saved comes back from the form in which it is written. -/
theorem Asks.decode_encode {codec : Codec} {args : List Argument} {customer : Customer}
    {token : Nat} (h : Asks codec args customer token) :
    codec.decode .customer (codec.encode .customer customer) = .ok customer := by
  cases h with
  | save hread hn => exact codec.decode_encode_of_decode (fun _ => by decide) hread

/-- The operation, asked to save a customer, calls the store once and acts on its answer. -/
theorem run_of_asks {p : Profile} {args : List Argument} {customer : Customer} {token : Nat}
    (h : Asks p.codec args customer token) (store : Store σ) (address : String) (l : Local ω)
    (b : Bus σ) :
    let op : Handler ω σ Unit := saveCustomer store p address args
    let saved := store.save (p.codec.encode .customer customer) b.surroundings
    (op.run l b).1 = outcomeOf saved.1 ∧ (op.run l b).2.2.surroundings = saved.2 ∧
      op.completions l b = completionsOf token saved.1 := by
  intro op saved
  have hop : op = _ := saveCustomer_of_asks h store address
  rw [hop]
  simp only [Handler.save, Handler.bind, Handler.run, Handler.completions]
  show _ = outcomeOf (store.save (p.codec.encode .customer customer) b.surroundings).1 ∧ _ ∧
    _ = completionsOf token (store.save (p.codec.encode .customer customer) b.surroundings).1
  cases (store.save (p.codec.encode .customer customer) b.surroundings).1 with
  | saved id => exact ⟨rfl, rfl, rfl⟩
  | refused error => exact ⟨rfl, rfl, rfl⟩
  | panicked reason => exact ⟨rfl, rfl, rfl⟩

/-- The operation, asked for anything else, fails and changes nothing. -/
theorem run_of_not_asks {p : Profile} {args : List Argument}
    (h : ∀ customer token, ¬ Asks p.codec args customer token) (store : Store σ) (address : String)
    (l : Local ω) (b : Bus σ) :
    let op : Handler ω σ Unit := saveCustomer store p address args
    (∃ error, op.run l b = (.failed error, l, b)) ∧ op.completions l b = [] := by
  intro op
  obtain ⟨error, hfail⟩ : ∃ error, op = .fail error := saveCustomer_of_not_asks h store address
  rw [hfail]
  exact ⟨⟨error, rfl⟩, rfl⟩

/-- **A save is atomic.** The operation, on any store and with any arguments, calls the store at
most once, and does so exactly when it has been asked to save a customer. The store is then handed
the customer as the codec writes it, which reads as the same customer, whatever bytes had come. The
token is completed with a success that holds exactly the store's id exactly when the store has given
one; if it refuses, the operation fails with its error, and nothing is completed. Asked for anything
else, the operation fails and changes nothing. -/
theorem save_is_atomic (store : Store σ) (p : Profile) (address : String) (args : List Argument)
    (l : Local ω) (b : Bus (Watched σ)) :
    let op : Handler ω (Watched σ) Unit := saveCustomer store.watched p address args
    let after := (op.run l b).2.2
    after.callbacks = Callbacks.run (Callbacks.completing (op.completions l b)) b.callbacks ∧
    ∃ calls, after.surroundings.calls = b.surroundings.calls ++ calls ∧ calls.length ≤ 1 ∧
      (calls ≠ [] ↔ ∃ customer token, Asks p.codec args customer token) ∧
      (∀ customer token, Asks p.codec args customer token →
        ∃ answer, calls = [(p.codec.encode .customer customer, answer)] ∧
          store.save (p.codec.encode .customer customer) b.surroundings.state =
            (answer, after.surroundings.state) ∧
          p.codec.decode .customer (p.codec.encode .customer customer) = .ok customer ∧
          (∀ id, op.completions l b = [(token, .success [.integer id])] ↔ answer = .saved id) ∧
          ((∀ id, answer ≠ .saved id) → op.completions l b = []) ∧
          (∀ id, answer = .saved id → (op.run l b).1 = .done ()) ∧
          (∀ error, answer = .refused error → (op.run l b).1 = .failed (.store error))) ∧
      ((∀ customer token, ¬ Asks p.codec args customer token) →
        (∃ error, (op.run l b).1 = .failed error) ∧ op.completions l b = [] ∧ after = b) := by
  intro op after
  refine ⟨op.callbacks_run l b, ?_⟩
  by_cases hasks : ∃ customer token, Asks p.codec args customer token
  · obtain ⟨customer, token, h⟩ := hasks
    obtain ⟨houtcome, hafter, hcompletions⟩ := run_of_asks h store.watched address l b
    refine ⟨[(p.codec.encode .customer customer,
      (store.save (p.codec.encode .customer customer) b.surroundings.state).1)], ?_, ?_, ?_, ?_, ?_⟩
    · exact congrArg Watched.calls hafter
    · exact Nat.le_refl 1
    · exact iff_of_true (List.cons_ne_nil _ _) ⟨customer, token, h⟩
    · intro customer' token' h'
      obtain ⟨rfl, rfl⟩ := h.unique h'
      refine ⟨_, rfl, ?_, h.decode_encode, ?_, ?_, ?_, ?_⟩
      · exact congrArg (Prod.mk _) (congrArg Watched.state hafter).symm
      · intro id
        rw [hcompletions]
        exact completionsOf_eq_singleton_iff token _ id
      · intro hnone
        rw [hcompletions]
        exact completionsOf_eq_nil token hnone
      · intro id hid
        rw [houtcome]
        exact congrArg outcomeOf hid
      · intro error herror
        rw [houtcome]
        exact congrArg outcomeOf herror
    · intro hnone
      exact absurd h (hnone customer token)
  · have hnone : ∀ customer token, ¬ Asks p.codec args customer token :=
      fun customer token h => hasks ⟨customer, token, h⟩
    obtain ⟨⟨error, hrun⟩, hcompletions⟩ := run_of_not_asks hnone store.watched address l b
    have hafter : after = b := congrArg (·.2.2) hrun
    refine ⟨[], ?_, Nat.zero_le 1, iff_of_false (fun h => h rfl) hasks, ?_, ?_⟩
    · rw [hafter, List.append_nil]
    · intro customer token h
      exact absurd h (hnone customer token)
    · intro _
      exact ⟨⟨error, congrArg (·.1) hrun⟩, hcompletions, hafter⟩

/-- A record with blanks, its names the other way round and a name that nobody knows is asked to be
saved all the same, and the store gets the customer in the form of the codec. -/
theorem save_is_atomic_afresh :
    let p : Profile := ⟨"c#1", "c", "o", .standard, "gone"⟩
    let data := asciiBytes "\x7b \"lastname\" : \"W\", \"age\": 7, \"firstname\": \"J\" \x7d"
    let op : Handler Unit (Watched MemoryStore) Unit :=
      saveCustomer MemoryStore.store.watched p "c" [.record "Customer" data, .integer 5]
    let b : Bus (Watched MemoryStore) := Bus.bind "in" "out" ⟨.empty, []⟩
    (op.run (.fresh ()) b).2.2.surroundings.calls =
        [(asciiBytes "\x7b\"firstname\":\"J\",\"lastname\":\"W\"\x7d", .saved 1)] ∧
      op.completions (.fresh ()) b = [(5, .success [.integer 1])] := by
  intro p data op b
  have hread : Codec.standard.decode .customer data = .ok ⟨"J", "W"⟩ := by decide +kernel
  have hasks : Asks p.codec [.record "Customer" data, .integer 5] ⟨"J", "W"⟩ 5 :=
    .save hread (by decide)
  obtain ⟨-, calls, hcalls, -, -, hspec, -⟩ :=
    save_is_atomic MemoryStore.store p "c" [.record "Customer" data, .integer 5] (.fresh ()) b
  obtain ⟨answer, rfl, hsave, -, hsuccess, -⟩ := hspec ⟨"J", "W"⟩ 5 hasks
  have hanswer : answer = .saved 1 := (congrArg Prod.fst hsave).symm
  refine ⟨?_, (hsuccess 1).mpr hanswer⟩
  rw [hcalls, hanswer]
  decide +kernel

end Service

end ActorBus
