import Scenario.Text.Whole

/-!
# What is read as a whole number

`Whole.read` gives up at the first digit that makes the number too large, so it never sees how large
the number would have been.  Numbers only grow with more digits, and so what it reads is what it
would have read without looking at the bound on the way (`Whole.read_eq_ok_iff`).
-/

set_option autoImplicit false

namespace Scenario.Text.Whole

variable {bound n m : Nat} {cs : List Char}

/-- A number in decimal digits, with or without a plus before them, that is not above a bound. -/
def Denotes (bound : Nat) (cs : List Char) (n : Nat) : Prop :=
  ∃ digits, (cs = digits ∨ cs = '+' :: digits) ∧ digits ≠ [] ∧ (∀ c ∈ digits, c.isDigit) ∧
    Nat.ofDigitChars 10 digits 0 = n ∧ n ≤ bound

/-- More digits make no number smaller. -/
theorem le_ofDigitChars (cs : List Char) (n : Nat) : n ≤ Nat.ofDigitChars 10 cs n := by
  induction cs generalizing n with
  | nil => exact Nat.le_refl n
  | cons c rest ih =>
    rw [Nat.ofDigitChars_cons]
    refine Nat.le_trans ?_ (ih _)
    omega

theorem readDigits_eq_ok_iff : readDigits bound n cs = .ok m ↔
    (∀ c ∈ cs, c.isDigit) ∧ Nat.ofDigitChars 10 cs n = m ∧ (cs ≠ [] → m ≤ bound) := by
  induction cs generalizing n with
  | nil => simp [readDigits, Nat.ofDigitChars]
  | cons c rest ih =>
    rw [readDigits, Nat.ofDigitChars_cons, Nat.mul_comm 10 n, List.forall_mem_cons]
    by_cases hc : c.isDigit
    · by_cases hlarge : bound < n * 10 + (c.toNat - '0'.toNat)
      · have hgrows := le_ofDigitChars rest (n * 10 + (c.toNat - '0'.toNat))
        simp only [hc, hlarge, ↓reduceIte]
        refine iff_of_false nofun ?_
        rintro ⟨-, rfl, hle⟩
        have := hle nofun
        omega
      · simp only [hc, hlarge, ↓reduceIte, ih, true_and]
        refine and_congr_right fun _ => and_congr_right fun hm => ?_
        refine ⟨fun h _ => ?_, fun h _ => h nofun⟩
        cases rest with
        | nil => exact hm ▸ Nat.not_lt.1 hlarge
        | cons => exact h nofun
    · simp [hc]

/-- **A text is read as the number that it denotes**, if that is not above the bound. -/
theorem read_eq_ok_iff : read bound cs = .ok n ↔ Denotes bound cs n := by
  have hdigits : ∀ {cs : List Char}, cs ≠ [] → (readDigits bound 0 cs = .ok n ↔
      (∀ c ∈ cs, c.isDigit) ∧ Nat.ofDigitChars 10 cs 0 = n ∧ n ≤ bound) := by
    intro cs hne
    rw [readDigits_eq_ok_iff]
    simp [hne]
  have hplus : ∀ {rest : List Char}, ¬ ∀ c ∈ '+' :: rest, c.isDigit := fun h =>
    absurd (h '+' List.mem_cons_self) (by decide)
  unfold read
  split
  · refine iff_of_false nofun ?_
    rintro ⟨digits, rfl | h, hne, -⟩
    · exact hne rfl
    · cases h
  · refine iff_of_false nofun ?_
    rintro ⟨digits, rfl | h, hne, hall, -⟩
    · exact hplus hall
    · cases h
      exact hne rfl
  · next rest hrest =>
    have hne : rest ≠ [] := fun h => hrest h
    rw [hdigits hne]
    constructor
    · exact fun h => ⟨rest, .inr rfl, hne, h⟩
    · rintro ⟨digits, rfl | h, -, hall, hvalue⟩
      · exact absurd hall hplus
      · cases h
        exact ⟨hall, hvalue⟩
  · next hnil _ hother =>
    rw [hdigits hnil]
    constructor
    · exact fun h => ⟨cs, .inl rfl, hnil, h⟩
    · rintro ⟨digits, rfl | rfl, -, hall, hvalue⟩
      · exact ⟨hall, hvalue⟩
      · exact absurd rfl (hother digits)

end Scenario.Text.Whole
