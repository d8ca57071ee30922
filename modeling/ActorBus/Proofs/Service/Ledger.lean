import ActorBus.Proofs.Callback.Table
import ActorBus.Proofs.Service.CustomerStore
import Mathlib.Data.List.Nodup
import Mathlib.Data.List.Perm.Subperm

/-!
# The books of a customer store

A save is in one of three places: its call has not been published, or is on its way to the actor,
or has been taken in. `Ledger` says what the table of callbacks and the store hold for the saves in
each of them. The id of a save is its place among those that have been taken in, which is also where
the store keeps its record, and the entry of its token holds that id until the client takes it.
-/

set_option autoImplicit false

namespace ActorBus.Service

/-- A save that a client has begun. -/
structure Save where
  token : Nat
  address : String
  customer : Customer
  deriving DecidableEq, Repr

namespace Save

/-- The message of its call. -/
def message (codec : Codec) (save : Save) : Message :=
  saveMessage codec save.address save.customer save.token

/-- The answer that carries an id. -/
def answer (k : Nat) : Completion := .success [.integer (Int64.ofNat (k + 1))]

/-- The answer to a save gives its id. -/
theorem idOf_answer (k : Nat) :
    CustomerError.idOf ((Callbacks.Answer.completion (answer k)).result saveHandle none) =
      .ok (Int64.ofNat (k + 1)) := rfl

end Save

/-- What a client's save has returned. -/
abbrev Returned := Save × Except CustomerError Int64

/-- The books: the saves that have been begun, with those that have not been published, those on
their way (`coming`) and those that have been taken in (`done`). -/
structure Ledger (codec : Codec) (cs : Callbacks) (store : MemoryStore) (begun unsent : List Save)
    (returned : List Returned) (done coming : List Save) : Prop where
  tokens : begun.map (·.token) = List.range' 1 cs.entries.length
  places : (done ++ coming ++ unsent).Perm begun
  records : store.records = done.map fun save => codec.encode .customer save.customer
  ids : ∀ save r, (save, r) ∈ returned →
    ∃ k, done[k]? = some save ∧ r = .ok (Int64.ofNat (k + 1))
  waiting : ∀ save ∈ begun, save ∉ done → cs.find? save.token = some .fresh
  answered : ∀ k save, done[k]? = some save → cs.find? save.token = some ⟨false,
    if save ∈ returned.map (·.1) then .served else .holding (Save.answer k)⟩

namespace Ledger

variable {codec : Codec} {cs : Callbacks} {store : MemoryStore} {begun unsent : List Save}
  {returned : List Returned} {done coming : List Save}

/-- Every token belongs to a save that was begun. -/
theorem length_begun (h : Ledger codec cs store begun unsent returned done coming) :
    begun.length = cs.entries.length := by
  rw [← List.length_map (·.token), h.tokens, List.length_range']

/-- The tokens of the saves have all been registered. -/
theorem token_le (h : Ledger codec cs store begun unsent returned done coming) {save : Save}
    (hsave : save ∈ begun) : save.token ≤ cs.entries.length := by
  have hmem := List.mem_map_of_mem (f := (·.token)) hsave
  rw [h.tokens, List.mem_range'_1] at hmem
  omega

/-- Two saves have two tokens. -/
theorem eq_of_token_eq (h : Ledger codec cs store begun unsent returned done coming)
    {save save' : Save} (hsave : save ∈ begun) (hsave' : save' ∈ begun)
    (heq : save.token = save'.token) : save = save' := by
  have hnodup : (begun.map (·.token)).Nodup := h.tokens ▸ List.nodup_range'
  exact List.inj_on_of_nodup_map hnodup hsave hsave' heq

/-- No save is done, on its way or unsent twice. -/
theorem nodup (h : Ledger codec cs store begun unsent returned done coming) :
    (done ++ coming ++ unsent).Nodup := by
  have hnodup : (begun.map (·.token)).Nodup := h.tokens ▸ List.nodup_range'
  exact h.places.nodup_iff.mpr (List.Nodup.of_map _ hnodup)

/-- What is done, on its way or unsent has been begun. -/
theorem mem_begun (h : Ledger codec cs store begun unsent returned done coming) {save : Save}
    (hsave : save ∈ done ∨ save ∈ coming ∨ save ∈ unsent) : save ∈ begun := by
  refine h.places.mem_iff.mp ?_
  simpa [or_assoc] using hsave

/-- Nothing has been begun yet. -/
theorem empty (codec : Codec) : Ledger codec .empty .empty [] [] [] [] [] where
  tokens := rfl
  places := .refl _
  records := rfl
  ids := fun _ _ h => absurd h List.not_mem_nil
  waiting := fun _ h => absurd h List.not_mem_nil
  answered := fun _ _ h => by cases h

/-- **A client begins a save**, and gets the next token. -/
theorem enter (h : Ledger codec cs store begun unsent returned done coming) (address : String)
    (customer : Customer) :
    Ledger codec cs.register.2 store (begun ++ [⟨cs.register.1, address, customer⟩])
      (unsent ++ [⟨cs.register.1, address, customer⟩]) returned done coming := by
  have hkept (save : Save) (hsave : save ∈ begun) :
      cs.register.2.find? save.token = cs.find? save.token := by
    have hle := h.token_le hsave
    rw [Callbacks.find?_register, if_neg (by omega)]
  exact {
    tokens := by
      rw [List.map_append, h.tokens, Callbacks.register, List.length_append, List.length_singleton,
        List.range'_concat]
      simp [Nat.add_comm]
    places := by
      rw [← List.append_assoc]
      exact h.places.append_right _
    records := h.records
    ids := h.ids
    waiting := fun save hsave hdone => by
      rcases List.mem_append.mp hsave with hold | hnew
      · rw [hkept save hold]
        exact h.waiting save hold hdone
      · rw [List.mem_singleton.mp hnew, Callbacks.find?_register]
        exact if_pos rfl
    answered := fun k save hk => by
      rw [hkept save (h.mem_begun (.inl (List.mem_of_getElem? hk)))]
      exact h.answered k save hk }

/-- A client publishes its call. -/
theorem send (h : Ledger codec cs store begun unsent returned done coming) {save : Save}
    (hsave : save ∈ unsent) :
    Ledger codec cs store begun (unsent.erase save) returned done (coming ++ [save]) :=
  { h with
    places := by
      have hfirst : (save :: unsent.erase save).Perm unsent :=
        (List.perm_cons_erase hsave).symm
      have hmoved := (hfirst.append_left (done ++ coming)).trans h.places
      simpa [List.append_assoc] using hmoved }

/-- **The actor takes in the next call**, saves the record and answers. -/
theorem answer {save : Save}
    (h : Ledger codec cs store begun unsent returned done (save :: coming)) :
    Ledger codec (cs.complete save.token (Save.answer store.records.length)).2
      ⟨store.records ++ [codec.encode .customer save.customer]⟩ begun unsent returned
      (done ++ [save]) coming := by
  have hbegun : save ∈ begun := h.mem_begun (.inr (.inl List.mem_cons_self))
  have hnew : save ∉ done := by
    have hnodup := h.nodup
    rw [List.append_assoc, List.nodup_append] at hnodup
    exact fun hdone => hnodup.2.2 save hdone save (by simp) rfl
  have hlength : store.records.length = done.length := by rw [h.records, List.length_map]
  have hothers (other : Save) (hother : other ∈ begun) (hne : other ≠ save) :
      (cs.complete save.token (Save.answer store.records.length)).2.find? other.token =
        cs.find? other.token := by
    have htoken : other.token ≠ save.token := fun heq => hne (h.eq_of_token_eq hother hbegun heq)
    simp only [Callbacks.find?_complete, if_neg htoken, Option.map_id']
  exact {
    tokens := by
      have hsame :=
        Callbacks.length_act (.complete save.token (Save.answer store.records.length)) cs
      rw [if_neg (by simp), Nat.add_zero] at hsame
      rw [h.tokens]
      exact congrArg (List.range' 1) hsame.symm
    places := by simpa [List.append_assoc] using h.places
    records := by rw [h.records, List.map_append, List.map_singleton]
    ids := fun other r hr => by
      obtain ⟨k, hk, rfl⟩ := h.ids other r hr
      exact ⟨k, (List.getElem?_append_left (List.getElem?_eq_some_iff.mp hk).1).trans hk, rfl⟩
    waiting := fun other hother hdone => by
      rw [List.mem_append, List.mem_singleton, not_or] at hdone
      rw [hothers other hother hdone.2]
      exact h.waiting other hother hdone.1
    answered := fun k other hk => by
      rcases Nat.lt_or_ge k done.length with hlt | hge
      · rw [List.getElem?_append_left hlt] at hk
        have hdone : other ∈ done := List.mem_of_getElem? hk
        rw [hothers other (h.mem_begun (.inl hdone)) fun heq => hnew (heq ▸ hdone)]
        exact h.answered k other hk
      · -- the one that has just been taken in has not been returned, for only those before it have
        rw [List.getElem?_append_right hge, List.getElem?_singleton] at hk
        have hlast : k = done.length := by
          by_contra hne
          rw [if_neg (by omega)] at hk
          cases hk
        rw [if_pos (by omega)] at hk
        cases hk
        have hunreturned : save ∉ returned.map (·.1) := by
          intro hmem
          obtain ⟨⟨_, r⟩, hr, rfl⟩ := List.mem_map.mp hmem
          obtain ⟨j, hj, -⟩ := h.ids _ r hr
          exact hnew (List.mem_of_getElem? hj)
        rw [Callbacks.find?_complete, h.waiting save hbegun hnew, Option.map_some, if_pos rfl,
          if_neg hunreturned, hlength, hlast]
        rfl }

/-- **A client finds its answer** as soon as its call has been taken in. -/
theorem look (h : Ledger codec cs store begun unsent returned done coming) {save : Save}
    (hsave : save ∈ begun) (hunreturned : save ∉ returned.map (·.1)) :
    (save ∉ done ∧ (cs.take save.token).1 = .empty) ∨
      ∃ k, done[k]? = some save ∧ (cs.take save.token).1 = .completion (Save.answer k) ∧
        Ledger codec (cs.take save.token).2 store begun unsent
          (returned ++ [(save, .ok (Int64.ofNat (k + 1)))]) done coming := by
  by_cases hdone : save ∈ done
  · right
    obtain ⟨k, hk⟩ := List.getElem?_of_mem hdone
    have hentry := h.answered k save hk
    rw [if_neg hunreturned] at hentry
    have hothers (other : Save) (hother : other ∈ begun) (hne : other ≠ save) :
        (cs.take save.token).2.find? other.token = cs.find? other.token := by
      have htoken : other.token ≠ save.token := fun heq => hne (h.eq_of_token_eq hother hsave heq)
      simp only [Callbacks.find?_take, if_neg htoken, Option.map_id']
    refine ⟨k, hk, by rw [Callbacks.take, hentry], ?_⟩
    exact {
      tokens := by
        have hsame := Callbacks.length_act (.take save.token) cs
        rw [if_neg (by simp), Nat.add_zero] at hsame
        rw [h.tokens]
        exact congrArg (List.range' 1) hsame.symm
      places := h.places
      records := h.records
      ids := fun other r hr => by
        rcases List.mem_append.mp hr with hold | hnew
        · exact h.ids other r hold
        · cases List.mem_singleton.mp hnew
          exact ⟨k, hk, rfl⟩
      waiting := fun other hother hother' => by
        rw [hothers other hother fun heq => hother' (heq ▸ hdone)]
        exact h.waiting other hother hother'
      answered := fun j other hj => by
        rw [List.map_append, List.map_singleton]
        by_cases hne : other = save
        · subst hne
          rw [Callbacks.find?_take, hentry, Option.map_some, if_pos rfl, if_pos (by simp)]
          rfl
        · rw [hothers other (h.mem_begun (.inl (List.mem_of_getElem? hj))) hne,
            h.answered j other hj]
          simp only [List.mem_append, List.mem_singleton, hne, or_false] }
  · left
    refine ⟨hdone, ?_⟩
    rw [Callbacks.take, h.waiting save hsave hdone]
    rfl

/-! ## What the books say -/

/-- No more saves are done than were begun. -/
theorem length_done_le (h : Ledger codec cs store begun unsent returned done coming) :
    done.length ≤ begun.length := by
  have hlength := h.places.length_eq
  rw [List.length_append, List.length_append] at hlength
  omega

/-- A save that is done is found under its id. -/
theorem get?_of_done (h : Ledger codec cs store begun unsent returned done coming)
    (hcount : begun.length < 2 ^ 63) {k : Nat} {save : Save} (hk : done[k]? = some save) :
    store.get? (Int64.ofNat (k + 1)) = some (codec.encode .customer save.customer) := by
  have hlt : k < done.length := (List.getElem?_eq_some_iff.mp hk).1
  have hle := h.length_done_le
  rw [MemoryStore.get?_ofNat (by omega), h.records, List.getElem?_map, hk]
  rfl

/-- The ids that have been returned tell the saves apart. -/
theorem eq_of_id_eq (h : Ledger codec cs store begun unsent returned done coming)
    (hcount : begun.length < 2 ^ 63) {save save' : Save} {id : Int64}
    (hid : (save, .ok id) ∈ returned) (hid' : (save', .ok id) ∈ returned) : save = save' := by
  obtain ⟨k, hk, heq⟩ := h.ids save _ hid
  obtain ⟨k', hk', heq'⟩ := h.ids save' _ hid'
  have hle := h.length_done_le
  have hlt : k < done.length := (List.getElem?_eq_some_iff.mp hk).1
  have hlt' : k' < done.length := (List.getElem?_eq_some_iff.mp hk').1
  have hints : (Int64.ofNat (k + 1)).toInt = (Int64.ofNat (k' + 1)).toInt := by
    rw [← Except.ok.inj heq, ← Except.ok.inj heq']
  rw [Int64.toInt_ofNat_of_lt (by omega), Int64.toInt_ofNat_of_lt (by omega)] at hints
  have hplaces : k = k' := by omega
  rw [hplaces, hk'] at hk
  exact (Option.some.inj hk).symm

/-- **Once every save has returned**, all are in the store and nobody waits. -/
theorem complete (h : Ledger codec cs store begun unsent returned done coming)
    (hall : ∀ save ∈ begun, ∃ r, (save, r) ∈ returned) :
    store.size = begun.length ∧ cs.pending = 0 := by
  have hdone (save : Save) (hsave : save ∈ begun) : ∃ k : Nat, done[k]? = some save := by
    obtain ⟨r, hr⟩ := hall save hsave
    obtain ⟨k, hk, -⟩ := h.ids save r hr
    exact ⟨k, hk⟩
  constructor
  · have hmost := h.length_done_le
    have hleast : begun.length ≤ done.length := by
      have hnodup : begun.Nodup := h.places.nodup_iff.mp h.nodup
      refine (List.Nodup.subperm hnodup fun save hsave => ?_).length_le
      obtain ⟨k, hk⟩ := hdone save hsave
      exact List.mem_of_getElem? hk
    rw [MemoryStore.size, h.records, List.length_map]
    omega
  · -- every entry is that of a save, and a save that has returned is not pending
    refine List.countP_eq_zero.mpr fun entry hentry => ?_
    obtain ⟨j, hj⟩ := List.getElem?_of_mem hentry
    have hlt : j < cs.entries.length := (List.getElem?_eq_some_iff.mp hj).1
    have htoken : j + 1 ∈ begun.map (·.token) := by
      rw [h.tokens, List.mem_range'_1]
      omega
    obtain ⟨save, hsave, hsaved⟩ := List.mem_map.mp htoken
    obtain ⟨k, hk⟩ := hdone save hsave
    have hfound := (Callbacks.find?_eq_some_iff _ _ _).mp (h.answered k save hk)
    rw [hsaved, Nat.add_sub_cancel, hj] at hfound
    rw [Option.some.inj hfound.2]
    exact Bool.false_ne_true

end Ledger

end ActorBus.Service
