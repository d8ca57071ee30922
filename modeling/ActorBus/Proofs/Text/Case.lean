/-!
# Letter case

What the lower-case and the upper-case form of a character are, by its number. Only the letters of
ASCII have two forms. The `spellings` of a word are the texts that say it in letters of either case.
-/

set_option autoImplicit false

namespace ActorBus

/-- The code of a character in lower case. -/
theorem toNat_toLower (c : Char) :
    c.toLower.toNat = if 65 ≤ c.toNat ∧ c.toNat ≤ 90 then c.toNat + 32 else c.toNat := by
  unfold Char.toLower
  simp only [ge_iff_le, UInt32.le_iff_toNat_le, Char.reduceVal, UInt32.reduceToNat, Char.toNat]
  split
  · simp only [UInt32.reduceSub, UInt32.toNat_add, UInt32.reduceToNat]
    omega
  · rfl

/-- The code of a character in upper case. -/
theorem toNat_toUpper (c : Char) :
    c.toUpper.toNat = if 97 ≤ c.toNat ∧ c.toNat ≤ 122 then c.toNat - 32 else c.toNat := by
  unfold Char.toUpper
  simp only [UInt32.le_iff_toNat_le, Char.reduceVal, UInt32.reduceToNat, Char.toNat]
  split
  · simp only [UInt32.reduceSub, UInt32.toNat_add, UInt32.reduceToNat]
    omega
  · rfl

/-- The characters whose lower-case form is one that is no capital: itself, and its upper-case
form. -/
theorem toLower_eq_iff {c d : Char} (hd : ¬(65 ≤ d.toNat ∧ d.toNat ≤ 90)) :
    c.toLower = d ↔ c = d ∨ c = d.toUpper := by
  rw [← Char.toNat_inj, ← Char.toNat_inj, ← Char.toNat_inj, toNat_toLower, toNat_toUpper]
  split <;> split <;> omega

/-- The texts that differ from a word without capitals in the case of their letters only. -/
def spellings : List Char → List (List Char)
  | [] => [[]]
  | c :: cs => (spellings cs).flatMap fun rest => [c :: rest, c.toUpper :: rest]

/-- The spellings of a word are the texts whose lower-case form it is. -/
theorem mem_spellings_iff {word cs : List Char}
    (hword : ∀ c ∈ word, ¬(65 ≤ c.toNat ∧ c.toNat ≤ 90)) :
    cs ∈ spellings word ↔ cs.map Char.toLower = word := by
  induction word generalizing cs with
  | nil => simp [spellings]
  | cons d word ih =>
    rw [List.forall_mem_cons] at hword
    have ih := fun rest => @ih rest hword.2
    cases cs with
    | nil => simp [spellings]
    | cons c cs =>
      simp only [spellings, List.mem_flatMap, ih, List.mem_cons, List.not_mem_nil, or_false,
        List.cons.injEq, List.map_cons, toLower_eq_iff hword.1]
      constructor
      · rintro ⟨rest, hrest, ⟨hc, rfl⟩ | ⟨hc, rfl⟩⟩
        · exact ⟨.inl hc, hrest⟩
        · exact ⟨.inr hc, hrest⟩
      · rintro ⟨hc | hc, hrest⟩
        · exact ⟨cs, hrest, .inl ⟨hc, rfl⟩⟩
        · exact ⟨cs, hrest, .inr ⟨hc, rfl⟩⟩

end ActorBus
