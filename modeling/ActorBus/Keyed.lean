/-!
# Pairs by key

A list of pairs in which no key stands twice serves as a small map that keeps the order of its keys.
Values are looked up by `List.lookup`.
-/

set_option autoImplicit false

namespace ActorBus.Keyed

variable {κ α : Type} [DecidableEq κ]

/-- Replaces the value of a key, or puts the key behind the others. -/
def put (key : κ) (value : α) : List (κ × α) → List (κ × α)
  | [] => [(key, value)]
  | (k, v) :: rest => if k = key then (key, value) :: rest else (k, v) :: put key value rest

/-- Removes a key. -/
def erase (key : κ) (entries : List (κ × α)) : List (κ × α) :=
  entries.filter fun entry => entry.1 ≠ key

/-- What was put under a key is found there, and no other key is touched. -/
theorem lookup_put (key other : κ) (value : α) (entries : List (κ × α)) :
    (put key value entries).lookup other =
      if other = key then some value else entries.lookup other := by
  induction entries with
  | nil =>
    by_cases h : other = key
    · simp [put, h]
    · have hne : (other == key) = false := by simp [h]
      simp [put, List.lookup_cons, h, hne]
  | cons entry rest ih =>
    obtain ⟨k, v⟩ := entry
    by_cases hk : k = key
    · subst hk
      by_cases h : other = k
      · simp [put, h]
      · have hne : (other == k) = false := by simp [h]
        simp [put, List.lookup_cons, h, hne]
    · by_cases h : other = k
      · subst h
        simp [put, hk]
      · have hne : (other == k) = false := by simp [h]
        simp [put, hk, List.lookup_cons, hne, ih]

/-- A removed key is not found any more, and no other key is touched. -/
theorem lookup_erase (key other : κ) (entries : List (κ × α)) :
    (erase key entries).lookup other = if other = key then none else entries.lookup other := by
  induction entries with
  | nil => simp [erase]
  | cons entry rest ih =>
    obtain ⟨k, v⟩ := entry
    unfold erase at ih ⊢
    by_cases hk : k = key
    · subst hk
      by_cases h : other = k
      · simpa [List.filter_cons, h] using ih
      · have hne : (other == k) = false := by simp [h]
        simpa [List.filter_cons, List.lookup_cons, h, hne] using ih
    · by_cases h : other = k
      · subst h
        simp [hk]
      · have hne : (other == k) = false := by simp [h]
        simpa [List.filter_cons, List.lookup_cons, hk, hne] using ih

end ActorBus.Keyed
