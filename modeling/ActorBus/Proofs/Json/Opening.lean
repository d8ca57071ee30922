import ActorBus.Json.Object
import ActorBus.Proofs.Text.Digits
import ActorBus.Proofs.Text.Utf8

/-!
# How a JSON value opens

Every written value starts with a digit or with one of seven other characters, whatever its type:
`Json.write_cons`. For a double that takes a look at the layouts of its digits, of which there is
always one.
-/

set_option autoImplicit false

namespace ActorBus.Json

/-- A character that can stand at the start of a written value. -/
def opens (c : Char) : Bool := c.isDigit || ['-', '"', '[', '\x7b', 't', 'f', 'n'].contains c

/-- These characters are all ASCII. -/
theorem toNat_lt_of_opens {c : Char} (hc : opens c = true) : c.toNat < 0x80 := by
  unfold opens at hc
  rw [Bool.or_eq_true] at hc
  rcases hc with hc | hc
  · have := toNat_of_isDigit c hc
    omega
  · simp only [List.contains_eq_mem, decide_eq_true_eq, List.mem_cons, List.not_mem_nil,
      or_false] at hc
    rcases hc with rfl | rfl | rfl | rfl | rfl | rfl | rfl <;> decide

/-- A value can open with a digit. -/
theorem opens_of_isDigit {c : Char} (hc : c.isDigit = true) : opens c = true := by
  rw [opens, hc, Bool.true_or]

/-- The digits of a decimal, of which there is at least one. -/
theorem trimZeros_cons {ds : List Char} (hds : ∀ c ∈ ds, c.isDigit = true) :
    ∃ d rest, Shortest.trimZeros ds = d :: rest ∧ d.isDigit = true := by
  unfold Shortest.trimZeros
  split
  · exact ⟨'0', [], rfl, by decide⟩
  · next hne =>
    obtain ⟨d, rest, hcons⟩ := List.exists_cons_of_ne_nil hne
    refine ⟨d, rest, hcons, hds d ?_⟩
    have hd : d ∈ (ds.reverse.dropWhile (· == '0')).reverse := hcons ▸ List.mem_cons_self
    exact List.mem_reverse.mp ((List.dropWhile_sublist _).mem (List.mem_reverse.mp hd))

/-- The shortest numeral of a number begins with a digit. -/
theorem shortest_digits (x : Binary64) :
    ∃ d rest, (Shortest.shortest x).digits = d :: rest ∧ d.isDigit = true := by
  unfold Shortest.shortest
  split
  · exact ⟨'0', [], rfl, by decide⟩
  · exact trimZeros_cons (isDigit_of_mem_toDigits _)

/-- A decimal starts with a digit in every layout. -/
theorem layout_write_cons (layout : Shortest.Layout) {decimal : Shortest.Decimal} {d : Char}
    {rest : List Char} (hdigits : decimal.digits = d :: rest) (hd : d.isDigit = true) :
    ∃ c cs, layout.write decimal = c :: cs ∧ c.isDigit = true := by
  unfold Shortest.Layout.write Shortest.positional Shortest.scientific
  rw [hdigits]
  split
  · split
    · exact ⟨'0', _, rfl, by decide⟩
    · next hpos =>
      obtain ⟨k, hk⟩ : ∃ k, decimal.exponent.toNat = k + 1 :=
        ⟨decimal.exponent.toNat - 1, by omega⟩
      simp only [hk]
      split
      · exact ⟨d, _, rfl, hd⟩
      · exact ⟨d, _, rfl, hd⟩
  · cases rest with
    | nil => exact ⟨d, _, rfl, hd⟩
    | cons e rest => exact ⟨d, _, rfl, hd⟩

/-- An integer opens as a value does. -/
theorem writeInt_cons (n : Int) : ∃ c cs, writeInt n = c :: cs ∧ opens c = true := by
  unfold writeInt
  split
  · exact ⟨'-', _, rfl, by decide⟩
  · obtain ⟨c, cs, h⟩ := List.exists_cons_of_ne_nil (Nat.toDigits_ne_nil (b := 10) (n := n.natAbs))
    refine ⟨c, cs, h, opens_of_isDigit (isDigit_of_mem_toDigits n.natAbs c ?_)⟩
    rw [h]
    exact List.mem_cons_self

/-- A floating point number opens as a value does. -/
theorem writeFloat_cons (x : Binary64) : ∃ c cs, writeFloat x = c :: cs ∧ opens c = true := by
  unfold writeFloat
  split
  · split
    · exact ⟨'-', _, rfl, by decide⟩
    · obtain ⟨d, rest, hdigits, hd⟩ := shortest_digits x
      obtain ⟨c, cs, h, hc⟩ := layout_write_cons floatLayout hdigits hd
      exact ⟨c, cs, h, opens_of_isDigit hc⟩
  · exact ⟨'n', _, rfl, by decide⟩

/-- Every value opens with one of a few characters. -/
theorem write_cons (t : ObjectType) (v : t.Value) :
    ∃ c cs, write t v = c :: cs ∧ opens c = true := by
  cases t with
  | customer => exact ⟨'\x7b', _, rfl, by decide⟩
  | handle => exact ⟨'\x7b', _, rfl, by decide⟩
  | boolean => cases v <;> exact ⟨_, _, rfl, by decide⟩
  | integer => exact writeInt_cons _
  | natural =>
    have h := writeInt_cons v.toNat
    rwa [writeInt, if_neg (by omega)] at h
  | float => exact writeFloat_cons v
  | text => exact ⟨'"', _, rfl, by decide⟩
  | integers => exact ⟨'[', _, rfl, by decide⟩
  | optionalText => cases v <;> exact ⟨_, _, rfl, by decide⟩

/-- The bytes of a value start with the byte of such a character. -/
theorem encode_cons (t : ObjectType) (v : t.Value) :
    ∃ c rest, encode t v = UInt8.ofNat c.toNat :: rest ∧ opens c = true := by
  obtain ⟨c, cs, hwrite, hc⟩ := write_cons t v
  refine ⟨c, Utf8.encode cs, ?_, hc⟩
  rw [encode, hwrite, Utf8.encode_cons, Utf8.encodeChar_of_lt c (toNat_lt_of_opens hc)]
  rfl

end ActorBus.Json
