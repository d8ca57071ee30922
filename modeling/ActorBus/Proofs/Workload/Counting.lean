import ActorBus.Proofs.Workload.Handler
import Mathlib.Algebra.Group.Int.Defs
import Mathlib.Algebra.Group.Nat.Defs

/-!
# Counting

An increment adds in signed 64-bit integers, while the integer of a property may lie above them.
From an integer that is signed the count goes up by exactly one, until the sum would not be signed
any more: there the increment panics and the bag stays as it was. An integer above the signed ones
is taken for no integer at all, and the count starts over at one.

`increment_counts_up_or_starts_over` says this about one increment and about any number of them.
-/

set_option autoImplicit false

namespace ActorBus

namespace Properties

/-- A key stands for an integer: it has that integer, or it is absent and the integer is zero. -/
def StandsFor (key : String) (n : Int) (p : Properties) : Prop :=
  p.get? key = some (.integer n) ∨ p.get? key = none ∧ n = 0

/-- A bag after a count of a key has been stored: the key has it, and nothing else has changed. -/
structure Counted (key : String) (n : Int) (before after : Properties) : Prop where
  here : after.get? key = some (.integer n)
  elsewhere : ∀ other, other ≠ key → after.get? other = before.get? other

variable {key : String} {n : Int} {p : Properties}

/-- A count that is set stands in the bag, and nothing else has changed there. -/
theorem counted_set (key : String) (n : Int) (p : Properties) :
    p.Counted key n (p.set key (.integer n)) where
  here := by rw [get?, set, Keyed.lookup_put, if_pos rfl]
  elsewhere other hother := by rw [get?, set, Keyed.lookup_put, if_neg hother, get?]

/-- What has been counted stands for its number. -/
theorem Counted.standsFor {q : Properties} (h : p.Counted key n q) : q.StandsFor key n :=
  .inl h.here

/-- Of two counts the later one is found. -/
theorem Counted.trans {m : Int} {q r : Properties} (hfirst : p.Counted key m q)
    (hsecond : q.Counted key n r) : p.Counted key n r where
  here := hsecond.here
  elsewhere other hother :=
    (hsecond.elsewhere other hother).trans (hfirst.elsewhere other hother)

/-- A key that stands for something else than zero has it. -/
theorem StandsFor.counted_self (h : p.StandsFor key n) (hn : n ≠ 0) : p.Counted key n p where
  here := by
    cases h with
    | inl hfound => exact hfound
    | inr habsent => exact absurd habsent.2 hn
  elsewhere _ _ := rfl

/-- A signed integer is counted up, where the sum is signed too. -/
theorem StandsFor.increment?_eq_ite (h : p.StandsFor key n) (hn : IsSigned64 n) :
    p.increment? key =
      if IsSigned64 (n + 1) then some (Int64.ofInt (n + 1), p.set key (.integer (n + 1)))
      else none := by
  have hold : (((p.get? key).bind (·.toInt64?)).getD 0).toInt = n := by
    cases h with
    | inl hfound =>
      rw [hfound, Option.bind_some, Json.Value.toInt64?, if_pos hn]
      exact Int64.toInt_ofInt_of_le hn.1 (by have := hn.2; omega)
    | inr habsent =>
      rw [habsent.1, habsent.2]
      rfl
  rw [increment?, hold]

/-- An integer that is not signed counts as none. -/
theorem StandsFor.increment?_of_not_signed (h : p.StandsFor key n) (hn : ¬IsSigned64 n) :
    p.increment? key = some (1, p.set key (.integer 1)) := by
  have hnone : (p.get? key).bind (·.toInt64?) = none := by
    cases h with
    | inl hfound => rw [hfound, Option.bind_some, Json.Value.toInt64?, if_neg hn]
    | inr habsent => rw [habsent.1, Option.bind_none]
  rw [increment?, hnone]
  rfl

end Properties

namespace Handler

variable {ω σ : Type} {key : String} {n : Int} {l : Local ω}

/-- To increment is to change the count in the bag. -/
theorem run_increment (key : String) (l : Local ω) (b : Bus σ) :
    (increment key).run l b =
      match l.properties.increment? key with
      | some (sum, p) => (.done sum, { l with properties := p }, b)
      | none => (.panicked Properties.overflowText, l, b) := by
  rw [increment, run]
  cases l.properties.increment? key <;> rfl

/-- Below the greatest signed integer an increment stores the sum and gives it. -/
theorem run_increment_of_lt (h : l.properties.StandsFor key n) (hlow : -2 ^ 63 ≤ n)
    (hn : n < 2 ^ 63 - 1) (b : Bus σ) :
    (increment key).run l b =
      (.done (Int64.ofInt (n + 1)),
        { l with properties := l.properties.set key (.integer (n + 1)) }, b) := by
  have hsum : IsSigned64 (n + 1) := ⟨by omega, by omega⟩
  rw [run_increment, h.increment?_eq_ite ⟨by omega, by omega⟩, if_pos hsum]

/-- At the greatest signed integer an increment panics, and nothing has changed. -/
theorem run_increment_of_greatest (h : l.properties.StandsFor key n) (hn : n = 2 ^ 63 - 1)
    (b : Bus σ) :
    (increment key).run l b = (.panicked Properties.overflowText, l, b) := by
  have hsum : ¬IsSigned64 (n + 1) := by
    rintro ⟨-, hhigh⟩
    omega
  rw [run_increment, h.increment?_eq_ite ⟨by omega, by omega⟩, if_neg hsum]

/-- Above the signed integers an increment stores one. -/
theorem run_increment_of_beyond (h : l.properties.StandsFor key n) (hn : 2 ^ 63 ≤ n) (b : Bus σ) :
    (increment key).run l b =
      (.done 1, { l with properties := l.properties.set key (.integer 1) }, b) := by
  have hbeyond : ¬IsSigned64 n := by
    rintro ⟨-, hhigh⟩
    omega
  rw [run_increment, h.increment?_of_not_signed hbeyond]

/-- An increment leaves a smaller integer than there was exactly above the signed ones. -/
theorem increment_lowers_iff (h : l.properties.StandsFor key n) (hlow : -2 ^ 63 ≤ n) (b : Bus σ)
    {m : Int} (hafter : ((increment key).run l b).2.1.properties.get? key = some (.integer m)) :
    m < n ↔ 2 ^ 63 ≤ n := by
  have hstored (k : Int) := (l.properties.counted_set key k).here
  obtain hsmall | hgreatest | hbeyond :
    n < 2 ^ 63 - 1 ∨ n = 2 ^ 63 - 1 ∨ 2 ^ 63 ≤ n := by omega
  · rw [run_increment_of_lt h hlow hsmall, hstored] at hafter
    cases hafter
    omega
  · rw [run_increment_of_greatest h hgreatest,
      (h.counted_self (by omega)).here] at hafter
    cases hafter
    omega
  · rw [run_increment_of_beyond h hbeyond, hstored] at hafter
    cases hafter
    omega

/-! ## Many increments -/

/-- Increments of one key, one after another. -/
def countUp (key : String) : Nat → Handler ω σ Unit
  | 0 => .done ()
  | k + 1 => (increment key).bind fun _ => countUp key k

/-- As long as the sum is signed, `k` increments add `k`. -/
theorem run_countUp (h : l.properties.StandsFor key n) (hlow : -2 ^ 63 ≤ n) {k : Nat} (hk : 0 < k)
    (hn : n + k < 2 ^ 63) (b : Bus σ) :
    ∃ p, (countUp key k).run l b = (.done (), { l with properties := p }, b) ∧
      l.properties.Counted key (n + k) p := by
  induction k generalizing l n with
  | zero => exact absurd hk (Nat.lt_irrefl 0)
  | succ k ih =>
    have hcounted := l.properties.counted_set key (n + 1)
    rw [countUp, run_bind, run_increment_of_lt h hlow (by omega)]
    obtain hzero | hpos := Nat.eq_zero_or_pos k
    · subst hzero
      exact ⟨_, rfl, hcounted⟩
    · obtain ⟨p, hrun, hp⟩ := ih
        (l := { l with properties := l.properties.set key (.integer (n + 1)) })
        hcounted.standsFor (by omega) hpos (by omega)
      refine ⟨p, hrun, ?_⟩
      have hsum : n + 1 + (k : Int) = n + (k + 1 : Nat) := by omega
      exact hsum ▸ hcounted.trans hp

/-- **The increments that lead beyond the signed integers stop at the greatest one.** -/
theorem run_countUp_of_beyond (h : l.properties.StandsFor key n) (hlow : -2 ^ 63 ≤ n)
    (hhigh : n < 2 ^ 63) {k : Nat} (hn : 2 ^ 63 ≤ n + k) (b : Bus σ) :
    ∃ p, (countUp key k).run l b =
        (.panicked Properties.overflowText, { l with properties := p }, b) ∧
      l.properties.Counted key (2 ^ 63 - 1) p := by
  induction k generalizing l n with
  | zero => omega
  | succ k ih =>
    rw [countUp, run_bind]
    obtain hgreatest | hsmall : n = 2 ^ 63 - 1 ∨ n < 2 ^ 63 - 1 := by omega
    · rw [run_increment_of_greatest h hgreatest]
      exact ⟨l.properties, rfl, hgreatest ▸ h.counted_self (by omega)⟩
    · have hcounted := l.properties.counted_set key (n + 1)
      rw [run_increment_of_lt h hlow hsmall]
      obtain ⟨p, hrun, hp⟩ := ih
        (l := { l with properties := l.properties.set key (.integer (n + 1)) })
        hcounted.standsFor (by omega) (by omega) (by omega)
      exact ⟨p, hrun, hcounted.trans hp⟩

/-- **An increment counts up by one, or panics, or starts over.** A key that stands for `n` and is
incremented stands for `n + 1`, where that is signed; it panics with nothing changed at the greatest
signed integer; and any integer above that is replaced by one, so that the count has gone down. The
other keys, the rest of the actor and the bus stay as they are. Increments that stay within the
signed integers add up, and those that do not stop at the greatest one. -/
theorem increment_counts_up_or_starts_over (h : l.properties.StandsFor key n)
    (hlow : -2 ^ 63 ≤ n) (b : Bus σ) :
    (n < 2 ^ 63 - 1 → ∃ sum p,
      (increment key).run l b = (.done sum, { l with properties := p }, b) ∧
        sum.toInt = n + 1 ∧ l.properties.Counted key (n + 1) p) ∧
    (n = 2 ^ 63 - 1 →
      (increment key).run l b = (.panicked Properties.overflowText, l, b)) ∧
    (2 ^ 63 ≤ n → ∃ p,
      (increment key).run l b = (.done 1, { l with properties := p }, b) ∧
        l.properties.Counted key 1 p) ∧
    (∀ m, ((increment key).run l b).2.1.properties.get? key = some (.integer m) →
      (m < n ↔ 2 ^ 63 ≤ n)) ∧
    (∀ k : Nat, 0 < k → n + k < 2 ^ 63 → ∃ p,
      (countUp key k).run l b = (.done (), { l with properties := p }, b) ∧
        l.properties.Counted key (n + k) p) ∧
    ∀ k : Nat, n < 2 ^ 63 → 2 ^ 63 ≤ n + k → ∃ p,
      (countUp key k).run l b =
          (.panicked Properties.overflowText, { l with properties := p }, b) ∧
        l.properties.Counted key (2 ^ 63 - 1) p := by
  refine ⟨?_, fun hn => run_increment_of_greatest h hn b, ?_,
    fun m hafter => increment_lowers_iff h hlow b hafter,
    fun k hk hn => run_countUp h hlow hk hn b,
    fun k hhigh hn => run_countUp_of_beyond h hlow hhigh hn b⟩
  · intro hn
    exact ⟨_, _, run_increment_of_lt h hlow hn b, Int64.toInt_ofInt_of_le (by omega) (by omega),
      l.properties.counted_set key (n + 1)⟩
  · intro hn
    exact ⟨_, run_increment_of_beyond h hn b, l.properties.counted_set key 1⟩

/-- The actor of the two theorems below: its bag has one key. -/
def bagOf (n : Int) : Local Unit :=
  { Local.fresh () with properties := Properties.empty.set "k" (.integer n) }

/-- It counts from 41, stops at the greatest integer, starts over above it, and counts to 1000 from
an empty bag. -/
theorem increment_counts_up_or_starts_over_limits :
    let b : Bus Unit := .bind "in" "out" ()
    (∃ sum p, (increment "k").run (bagOf 41) b = (.done sum, { bagOf 41 with properties := p }, b) ∧
      sum.toInt = 42 ∧ (bagOf 41).properties.Counted "k" 42 p) ∧
    (increment "k").run (bagOf (2 ^ 63 - 1)) b =
      (.panicked Properties.overflowText, bagOf (2 ^ 63 - 1), b) ∧
    (∃ p, (increment "k").run (bagOf (2 ^ 64 - 1)) b =
        (.done 1, { bagOf (2 ^ 64 - 1) with properties := p }, b) ∧
      (bagOf (2 ^ 64 - 1)).properties.Counted "k" 1 p) ∧
    ∃ p, (countUp "k" 1000).run (Local.fresh ()) b =
        (.done (), { Local.fresh () with properties := p }, b) ∧
      Properties.empty.Counted "k" (0 + 1000) p := by
  intro b
  have hfound (n : Int) : (bagOf n).properties.StandsFor "k" n := .inl rfl
  have habsent : (Local.fresh ()).properties.StandsFor "k" 0 := .inr ⟨rfl, rfl⟩
  obtain ⟨hup, -⟩ := increment_counts_up_or_starts_over (hfound 41) (by omega) b
  obtain ⟨-, hfull, -⟩ := increment_counts_up_or_starts_over (hfound (2 ^ 63 - 1)) (by omega) b
  obtain ⟨-, -, hover, -⟩ := increment_counts_up_or_starts_over (hfound (2 ^ 64 - 1)) (by omega) b
  obtain ⟨-, -, -, -, hmany, -⟩ := increment_counts_up_or_starts_over habsent (by omega) b
  exact ⟨hup (by omega), hfull rfl, hover (by omega), hmany 1000 (by omega) (by omega)⟩

/-- The integer above the signed ones has become one. -/
theorem increment_starts_over :
    (increment "k").run (bagOf (2 ^ 63)) (Bus.bind "in" "out" ()) =
      (.done 1, bagOf 1, Bus.bind "in" "out" ()) := by
  rfl

end Handler

end ActorBus
