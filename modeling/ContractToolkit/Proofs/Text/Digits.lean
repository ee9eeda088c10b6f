import ContractToolkit.Proofs.Text.Sizes
import ContractToolkit.Proofs.Text.Words
import Mathlib.Tactic.SplitIfs

/-!
# Digits of a number

The decimal digits of a number are characters of one range, with no white space
between them. There is at least one, and only zero begins with a zero.
-/

namespace ContractToolkit.Text

/-- The digits of a number are between two characters. -/
theorem digit_range {n : Nat} {c : Char} (h : c ∈ decimal n) : 48 ≤ c.toNat ∧ c.toNat ≤ 57 :=
  Char.isDigit_iff_toNat.mp ((isDecimal_iff.mp (isDecimal_decimal n)).2 c h)

/-- Digits have no white space between them. -/
theorem solid_decimal (n : Nat) : Solid (decimal n) := by
  intro c hc
  have hrange := digit_range hc
  simp only [isBlank, Bool.or_eq_false_iff, Bool.and_eq_false_iff, decide_eq_false_iff_not,
    beq_eq_false_iff_ne]
  omega

/-- The digits of a number begin with a digit. -/
theorem decimal_eq_cons (n : Nat) : ∃ c rest, decimal n = c :: rest ∧ c.isDigit = true := by
  obtain ⟨hne, hdigits⟩ := isDecimal_iff.mp (isDecimal_decimal n)
  obtain ⟨c, rest, hcons⟩ := List.exists_cons_of_ne_nil hne
  exact ⟨c, rest, hcons, hdigits c (hcons ▸ List.mem_cons_self)⟩

/-- Only zero has a zero in front of its digits. -/
theorem head?_decimal {n : Nat} (h : 0 < n) : (decimal n).head? ≠ some '0' := by
  induction n using Nat.strongRecOn with
  | _ n ih =>
    rw [decimal, Nat.toDigits_eq_if (by decide)]
    split_ifs with hsmall
    · have hall : ∀ n < 10, 0 < n → some (Nat.digitChar n) ≠ some '0' := by decide
      exact hall n hsmall h
    · have hfirst := ih (n / 10) (by omega) (by omega)
      rw [List.head?_append, List.head?_eq_some_head Nat.toDigits_ne_nil, Option.some_or]
      rwa [decimal, List.head?_eq_some_head Nat.toDigits_ne_nil] at hfirst

/-- A character with which an integer can begin. -/
def LeadsInt (c : Char) : Prop := c = '-' ∨ c.isDigit = true

/-- Other characters are none with which an integer can begin. -/
theorem LeadsInt.ne {c : Char} (h : LeadsInt c) (d : Char) (hd : d ≠ '-' ∧ d.isDigit = false) :
    c ≠ d := by
  rintro rfl
  cases h with
  | inl hminus => exact hd.1 hminus
  | inr hdigit =>
    rw [hd.2] at hdigit
    cases hdigit

/-- An integer as text begins with a minus sign or with a digit. -/
theorem ofInt_eq_cons (n : Int) : ∃ c rest, (ofInt n).toList = c :: rest ∧ LeadsInt c := by
  cases n with
  | ofNat n =>
    obtain ⟨c, rest, hcons, hc⟩ := decimal_eq_cons n
    exact ⟨c, rest, by rw [ofInt, ofNat, String.toList_ofList, hcons], Or.inr hc⟩
  | negSucc n =>
    refine ⟨'-', decimal (n + 1), ?_, Or.inl rfl⟩
    rw [ofInt, ofNat, String.toList_append, String.toList_ofList, String.toList_ofList]
    rfl

end ContractToolkit.Text
