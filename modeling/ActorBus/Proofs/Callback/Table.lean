import ActorBus.Callback.Table
import Mathlib.Data.List.Basic

/-!
# Actions on the table of callbacks

What callers and actors do with a table, seen from one entry. Every operation replaces one entry by
a function of it (`find?_of_put`), so an action acts on each entry by itself: `find?_act` says that
`Callback.act` is what it does there. The quiet completion is the completion,
`completeIfPending_eq_complete`.
-/

set_option autoImplicit false

namespace ActorBus

namespace Callback

/-- The entry of a token that has just been given out. -/
def fresh : Callback := ⟨true, .listening⟩

/-- The entry after a completion: it is no longer pending, and a listener that has heard nothing
holds what came. -/
def complete (c : Completion) : Callback → Callback
  | ⟨true, .listening⟩ => ⟨false, .holding c⟩
  | ⟨_, listener⟩ => ⟨false, listener⟩

/-- The entry after its receiver has looked. -/
def take : Callback → Callback
  | ⟨pending, .holding _⟩ => ⟨pending, .served⟩
  | entry => entry

/-- The entry after its receiver has been dropped. -/
def giveUp (entry : Callback) : Callback := { entry with listener := .gone }

end Callback

namespace Callbacks

/-- **The quiet completion is the completion**: they differ in the log alone. -/
theorem completeIfPending_eq_complete (token : Nat) (c : Completion) (cs : Callbacks) :
    cs.completeIfPending token c = cs.complete token c := by
  rw [completeIfPending, complete]
  rcases cs.find? token with _ | ⟨_ | _, listener⟩
  · rfl
  · rfl
  · rfl

/-! ## Entries -/

/-- A token stands for an entry at the place before it. -/
theorem find?_eq_some_iff (token : Nat) (entry : Callback) (cs : Callbacks) :
    cs.find? token = some entry ↔ token ≠ 0 ∧ cs.entries[token - 1]? = some entry := by
  rw [find?]
  split
  · next h => simp [h]
  · next h => simp [h]

/-- Tokens that are found lie between one and the number of entries. -/
theorem le_length_of_find? {token : Nat} {entry : Callback} {cs : Callbacks}
    (h : cs.find? token = some entry) : 0 < token ∧ token ≤ cs.entries.length := by
  obtain ⟨hpos, hentry⟩ := (find?_eq_some_iff token entry cs).mp h
  obtain ⟨hlt, -⟩ := List.getElem?_eq_some_iff.mp hentry
  omega

/-- To replace an entry neither adds nor removes one. -/
theorem length_put (token : Nat) (entry : Callback) (cs : Callbacks) :
    (cs.put token entry).entries.length = cs.entries.length :=
  List.length_set

/-- Replacing the entry of a token that has been given out changes that entry alone. -/
theorem find?_put {token : Nat} {old : Callback} {cs : Callbacks} (u : Nat) (entry : Callback)
    (h : cs.find? token = some old) :
    (cs.put token entry).find? u = if u = token then some entry else cs.find? u := by
  obtain ⟨hpos, hle⟩ := le_length_of_find? h
  rw [find?, find?, put]
  by_cases hu : u = 0
  · have hne : u ≠ token := by omega
    rw [if_pos hu, if_pos hu, if_neg hne]
  · rw [if_neg hu, if_neg hu]
    by_cases hut : u = token
    · have hlt : token - 1 < cs.entries.length := by omega
      rw [if_pos hut, hut, List.getElem?_set_self hlt]
    · have hne : token - 1 ≠ u - 1 := by omega
      rw [if_neg hut, List.getElem?_set_ne hne]

/-- A registration gives out the next token and leaves the others as they are. -/
theorem find?_register (u : Nat) (cs : Callbacks) :
    cs.register.2.find? u =
      if u = cs.entries.length + 1 then some Callback.fresh else cs.find? u := by
  rw [register, find?, find?]
  by_cases hu : u = 0
  · have hne : u ≠ cs.entries.length + 1 := by omega
    rw [if_pos hu, if_neg hne, if_pos hu]
  · rw [if_neg hu, if_neg hu]
    by_cases hlast : u = cs.entries.length + 1
    · have hindex : u - 1 = cs.entries.length := by omega
      rw [if_pos hlast, hindex]
      exact List.getElem?_concat_length
    · rw [if_neg hlast]
      rcases Nat.lt_or_ge (u - 1) cs.entries.length with hlt | hge
      · exact List.getElem?_append_left hlt
      · have hbeyond : cs.entries.length < u - 1 := by omega
        rw [List.getElem?_eq_none hge, List.getElem?_eq_none]
        rw [List.length_append, List.length_singleton]
        exact hbeyond

/-- An operation that replaces the entry of one token by `f` of it, or leaves the table where that
is the same, acts on that entry alone. -/
theorem find?_of_put {token : Nat} {cs cs' : Callbacks} (f : Callback → Callback)
    (hnone : cs.find? token = none → cs' = cs)
    (hsome : ∀ entry, cs.find? token = some entry →
      cs' = cs.put token (f entry) ∨ cs' = cs ∧ f entry = entry) (u : Nat) :
    cs'.find? u = (cs.find? u).map fun entry => if u = token then f entry else entry := by
  by_cases hut : u = token
  · subst hut
    cases hfind : cs.find? u with
    | none => rw [hnone hfind, hfind, Option.map_none]
    | some entry =>
      rw [Option.map_some, if_pos rfl]
      rcases hsome entry hfind with rfl | ⟨rfl, hsame⟩
      · rw [find?_put u _ hfind, if_pos rfl]
      · rw [hfind, hsame]
  · have hsame : cs'.find? u = cs.find? u := by
      cases hfind : cs.find? token with
      | none => rw [hnone hfind]
      | some entry =>
        rcases hsome entry hfind with rfl | ⟨rfl, -⟩
        · rw [find?_put u _ hfind, if_neg hut]
        · rfl
    simp only [if_neg hut, Option.map_id', hsame]

/-- A completion completes the entry of its token and no other. -/
theorem find?_complete (token u : Nat) (c : Completion) (cs : Callbacks) :
    (cs.complete token c).2.find? u =
      (cs.find? u).map fun entry => if u = token then entry.complete c else entry := by
  apply find?_of_put
  · intro hfind
    rw [complete, hfind]
  · rintro ⟨pending, listener⟩ hfind
    rw [complete, hfind]
    cases pending with
    | false =>
      right
      exact ⟨rfl, by cases listener <;> rfl⟩
    | true =>
      left
      cases listener <;> rfl

/-- The entry of the completed token. -/
theorem find?_complete_self (token : Nat) (c : Completion) (cs : Callbacks) :
    (cs.complete token c).2.find? token = (cs.find? token).map (·.complete c) := by
  simp only [find?_complete, if_true]

/-- A completion leaves the other tokens alone. -/
theorem find?_complete_of_ne {token u : Nat} (hne : u ≠ token) (c : Completion)
    (cs : Callbacks) : (cs.complete u c).2.find? token = cs.find? token := by
  simp only [find?_complete, if_neg hne.symm, Option.map_id']

/-- To take a completion changes the entry of its token and no other. -/
theorem find?_take (token u : Nat) (cs : Callbacks) :
    (cs.take token).2.find? u =
      (cs.find? u).map fun entry => if u = token then entry.take else entry := by
  apply find?_of_put
  · intro hfind
    rw [take, hfind]
  · rintro ⟨pending, listener⟩ hfind
    rw [take, hfind]
    cases listener with
    | holding c => exact .inl rfl
    | listening => exact .inr ⟨rfl, rfl⟩
    | served => exact .inr ⟨rfl, rfl⟩
    | gone => exact .inr ⟨rfl, rfl⟩

/-- To give up changes the entry of its token and no other. -/
theorem find?_giveUp (token u : Nat) (cs : Callbacks) :
    (cs.giveUp token).2.find? u =
      (cs.find? u).map fun entry => if u = token then entry.giveUp else entry := by
  apply find?_of_put
  · intro hfind
    rw [giveUp, hfind]
  · rintro ⟨pending, listener⟩ hfind
    rw [giveUp, hfind]
    cases listener with
    | gone => exact .inr ⟨rfl, rfl⟩
    | listening => exact .inl rfl
    | holding c => exact .inl rfl
    | served => exact .inl rfl

/-! ## Actions -/

/-- What callers and actors do with a table. -/
inductive Action where
  | register
  | complete (token : Nat) (completion : Completion)
  | completeIfPending (token : Nat) (completion : Completion)
  /-- A receiver looks for its completion. -/
  | take (token : Nat)
  /-- A receiver is dropped. -/
  | giveUp (token : Nat)
  deriving DecidableEq, Repr

/-- The table after an action. -/
def act (cs : Callbacks) : Action → Callbacks
  | .register => cs.register.2
  | .complete token c => (cs.complete token c).2
  | .completeIfPending token c => (cs.completeIfPending token c).2
  | .take token => (cs.take token).2
  | .giveUp token => (cs.giveUp token).2

/-- The completion with which an action names a token. -/
def Action.naming? (token : Nat) : Action → Option Completion
  | .complete u c | .completeIfPending u c => if u = token then some c else none
  | _ => none

end Callbacks

/-- What an action makes of the entry of a token. -/
def Callback.act (token : Nat) (entry : Callback) : Callbacks.Action → Callback
  | .register => entry
  | .complete u c | .completeIfPending u c => if token = u then entry.complete c else entry
  | .take u => if token = u then entry.take else entry
  | .giveUp u => if token = u then entry.giveUp else entry

namespace Callbacks

/-- **An action acts on each entry by itself.** -/
theorem find?_act (a : Action) (u : Nat) (cs : Callbacks) :
    (cs.act a).find? u =
      if a = .register ∧ u = cs.entries.length + 1 then some Callback.fresh
      else (cs.find? u).map (Callback.act u · a) := by
  cases a with
  | register =>
    rw [act, find?_register]
    simp only [true_and, Callback.act, Option.map_id']
  | complete token c =>
    rw [if_neg (by simp)]
    exact find?_complete token u c cs
  | completeIfPending token c =>
    rw [if_neg (by simp), act, completeIfPending_eq_complete]
    exact find?_complete token u c cs
  | take token =>
    rw [if_neg (by simp)]
    exact find?_take token u cs
  | giveUp token =>
    rw [if_neg (by simp)]
    exact find?_giveUp token u cs

/-- An action acts on every entry that is there on its own. -/
theorem find?_act_of_some {u : Nat} {entry : Callback} {cs : Callbacks} (a : Action)
    (h : cs.find? u = some entry) : (cs.act a).find? u = some (entry.act u a) := by
  have hle := (le_length_of_find? h).2
  rw [find?_act, if_neg (by omega), h, Option.map_some]

/-- Only registrations make a table longer. -/
theorem length_act (a : Action) (cs : Callbacks) :
    (cs.act a).entries.length = cs.entries.length + if a = .register then 1 else 0 := by
  have hcomplete (token : Nat) (c : Completion) :
      (cs.complete token c).2.entries.length = cs.entries.length := by
    rw [complete]
    split
    · exact length_put _ _ _
    · exact length_put _ _ _
    · rfl
  cases a with
  | register => simp [act, register]
  | complete token c => simpa [act] using hcomplete token c
  | completeIfPending token c =>
    simpa [act, completeIfPending_eq_complete] using hcomplete token c
  | take token =>
    simp only [act, take, reduceCtorEq, if_false, Nat.add_zero]
    split
    · rfl
    · split
      · rfl
      · exact length_put _ _ _
      · rfl
      · rfl
  | giveUp token =>
    simp only [act, giveUp, reduceCtorEq, if_false, Nat.add_zero]
    split
    · rfl
    · split
      · rfl
      · exact length_put _ _ _

/-! ## One entry -/

/-- A pending entry stays pending until an action completes it. -/
theorem pending_act (token : Nat) (entry : Callback) (a : Action) :
    (entry.act token a).pending = (entry.pending && (a.naming? token).isNone) := by
  have hcomplete (c : Completion) : (entry.complete c).pending = false := by
    rcases entry with ⟨_ | _, _ | _ | _ | _⟩ <;> rfl
  have htake : entry.take.pending = entry.pending := by
    rcases entry with ⟨pending, _ | _ | _ | _⟩ <;> rfl
  cases a with
  | register => simp [Callback.act, Action.naming?]
  | complete u c | completeIfPending u c =>
    by_cases hu : token = u
    · simp [Callback.act, Action.naming?, hu, hcomplete]
    · simp [Callback.act, Action.naming?, hu, Ne.symm hu]
  | take u =>
    by_cases hu : token = u
    · simp [Callback.act, Action.naming?, hu, htake]
    · simp [Callback.act, Action.naming?, hu]
  | giveUp u =>
    by_cases hu : token = u
    · simp [Callback.act, Action.naming?, hu, Callback.giveUp]
    · simp [Callback.act, Action.naming?, hu]

/-- An entry is fresh behind an action if it was before, and the action neither completed it nor
gave it up. -/
theorem act_eq_fresh_iff (token : Nat) (entry : Callback) (a : Action) :
    entry.act token a = Callback.fresh ↔
      entry = Callback.fresh ∧ a.naming? token = none ∧ a ≠ .giveUp token := by
  have hcomplete (c : Completion) : entry.complete c ≠ Callback.fresh := by
    rcases entry with ⟨_ | _, _ | _ | _ | _⟩ <;> nofun
  have htake : entry.take = Callback.fresh ↔ entry = Callback.fresh := by
    rcases entry with ⟨pending, _ | _ | _ | _⟩ <;> simp [Callback.take, Callback.fresh]
  cases a with
  | register => simp [Callback.act, Action.naming?]
  | complete u c | completeIfPending u c =>
    by_cases hu : token = u
    · simp [Callback.act, Action.naming?, hu, hcomplete]
    · simp [Callback.act, Action.naming?, hu, Ne.symm hu]
  | take u =>
    by_cases hu : token = u
    · simp [Callback.act, Action.naming?, hu, htake]
    · simp [Callback.act, Action.naming?, hu]
  | giveUp u =>
    by_cases hu : token = u
    · simp [Callback.act, Action.naming?, hu, Callback.giveUp, Callback.fresh]
    · simp [Callback.act, Action.naming?, hu, Ne.symm hu]

/-- A completing call reaches a listener exactly when one is waiting. -/
theorem complete_eq_true_iff (token : Nat) (c : Completion) (cs : Callbacks) :
    (cs.complete token c).1 = true ↔ cs.find? token = some Callback.fresh := by
  rw [complete]
  rcases cs.find? token with _ | ⟨_ | _, _ | _ | _ | _⟩ <;> simp [Callback.fresh]

/-- A listener that has been served or is gone stays so. -/
theorem spent_act {entry : Callback} (token : Nat) (a : Action)
    (h : entry.listener = .served ∨ entry.listener = .gone) :
    (entry.act token a).listener = .served ∨ (entry.act token a).listener = .gone := by
  have hcomplete (c : Completion) : (entry.complete c).listener = entry.listener := by
    rcases entry with ⟨_ | _, listener⟩ <;> rcases h with rfl | rfl <;> rfl
  have htake : entry.take.listener = entry.listener := by
    rcases entry with ⟨pending, listener⟩
    rcases h with rfl | rfl <;> rfl
  cases a with
  | register => exact h
  | complete u c | completeIfPending u c =>
    rw [Callback.act]
    split
    · rw [hcomplete]
      exact h
    · exact h
  | take u =>
    rw [Callback.act]
    split
    · rw [htake]
      exact h
    · exact h
  | giveUp u =>
    rw [Callback.act]
    split
    · exact .inr rfl
    · exact h

end Callbacks

end ActorBus
