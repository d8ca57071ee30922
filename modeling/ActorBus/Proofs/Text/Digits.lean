import ActorBus.Text.Blank

/-!
# Decimal digits

Facts about the digits that write a number, for every reader that takes them back: they are digits
and no blanks, they give the number again, and they start with a zero for zero alone.
-/

set_option autoImplicit false

namespace ActorBus

/-- The characters that write a number are digits. -/
theorem isDigit_of_mem_toDigits (n : Nat) : ∀ c ∈ Nat.toDigits 10 n, c.isDigit = true :=
  fun _ hc => Nat.isDigit_of_mem_toDigits (by omega) (by omega) hc

/-- A digit is a character from 48 to 57. -/
theorem toNat_of_isDigit (c : Char) (hc : c.isDigit = true) : 48 ≤ c.toNat ∧ c.toNat ≤ 57 := by
  have h := Char.isDigit_iff_toNat.mp hc
  simp only [Char.reduceToNat] at h
  exact h

/-- The number that a row of digits is read as. -/
theorem foldl_digits_eq (digits : List Char) (n : Nat) :
    digits.foldl (fun n c => n * 10 + (c.toNat - 48)) n = Nat.ofDigitChars 10 digits n := by
  rw [Nat.ofDigitChars_eq_foldl]
  congr 1
  funext n c
  rw [Nat.mul_comm]
  rfl

/-- Different numbers are written differently. -/
theorem toDigits_injective {m n : Nat} (h : Nat.toDigits 10 m = Nat.toDigits 10 n) : m = n := by
  have hvalue := congrArg (Nat.ofDigitChars 10 · 0) h
  simpa only [Nat.ofDigitChars_ten_toDigits] using hvalue

/-- Only the number zero is written with a zero in front. -/
theorem toDigits_ne_zero_cons (n : Nat) (ds : List Char) (h : Nat.toDigits 10 n = '0' :: ds) :
    ds = [] := by
  induction n using Nat.strongRecOn generalizing ds with
  | ind n ih =>
    by_cases hn : n < 10
    · rw [Nat.toDigits_of_lt_base hn] at h
      exact (List.cons.inj h).2.symm
    · rw [Nat.toDigits_of_base_le (by omega) (by omega)] at h
      cases hds : Nat.toDigits 10 (n / 10) with
      | nil => exact absurd hds Nat.toDigits_ne_nil
      | cons d rest =>
        rw [hds, List.cons_append] at h
        cases h
        -- a quotient that is written as a single zero is zero, and then `n` has one digit
        have hrest := ih (n / 10) (by omega) rest hds
        rw [hrest] at hds
        have hvalue := congrArg (Nat.ofDigitChars 10 · 0) hds
        simp only [Nat.ofDigitChars_ten_toDigits] at hvalue
        have : n / 10 = 0 := hvalue
        omega

namespace Blank

/-- A digit is no blank. -/
theorem isBlank_eq_false_of_isDigit (c : Char) (hc : c.isDigit = true) : isBlank c = false := by
  have h := toNat_of_isDigit c hc
  simp only [isBlank, Bool.or_eq_false_iff, Bool.and_eq_false_iff, decide_eq_false_iff_not,
    beq_eq_false_iff_ne]
  omega

/-- Nothing is taken off a row that starts with no blank. -/
theorem dropWhile_of_isDigit (cs : List Char) (hcs : ∀ c ∈ cs, c.isDigit = true) :
    cs.dropWhile isBlank = cs := by
  cases cs with
  | nil => rfl
  | cons c cs =>
    rw [List.dropWhile_cons_of_neg]
    simp [isBlank_eq_false_of_isDigit c (hcs c List.mem_cons_self)]

/-- Nothing is taken off a row of digits. -/
theorem trim_of_isDigit (cs : List Char) (hcs : ∀ c ∈ cs, c.isDigit = true) : trim cs = cs := by
  rw [trim, dropWhile_of_isDigit cs hcs,
    dropWhile_of_isDigit cs.reverse fun c hc => hcs c (List.mem_reverse.mp hc),
    List.reverse_reverse]

end Blank

end ActorBus
