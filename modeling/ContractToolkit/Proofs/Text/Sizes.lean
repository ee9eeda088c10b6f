import ContractToolkit.Text.Number

/-!
# Sizes in text

A size is written in decimal digits, at least one, with any number of zeros and
at most one plus sign in front of them. Reading gives the number that the
digits write, as far as it is a size.
-/

namespace ContractToolkit.Text

/-- Decimal digits are digits, and there is one. -/
theorem isDecimal_iff {digits : List Char} :
    isDecimal digits = true ↔ digits ≠ [] ∧ ∀ c ∈ digits, c.isDigit = true := by
  rw [isDecimal, Bool.and_eq_true, List.all_eq_true]
  simp

/-- The digits of a number are decimal digits. -/
theorem isDecimal_decimal (n : Nat) : isDecimal (decimal n) = true :=
  isDecimal_iff.mpr
    ⟨Nat.toDigits_ne_nil, fun _ => Nat.isDigit_of_mem_toDigits (by decide) (by decide)⟩

/-- The number that the digits of a number write is that number. -/
theorem decimalValue_decimal (n : Nat) : decimalValue (decimal n) = n :=
  Nat.ofDigitChars_ten_toDigits

/-- A number is known by its digits. -/
theorem decimal_inj {m n : Nat} : decimal m = decimal n ↔ m = n := by
  refine ⟨fun h => ?_, congrArg decimal⟩
  have hvalue := congrArg decimalValue h
  rwa [decimalValue_decimal, decimalValue_decimal] at hvalue

/-- A number as a size is written: in decimal digits, with or without a plus sign in front. -/
inductive WritesSize : List Char → Nat → Prop
  | plain {digits : List Char} (decimal : isDecimal digits = true) :
      WritesSize digits (decimalValue digits)
  | signed {digits : List Char} (decimal : isDecimal digits = true) :
      WritesSize ('+' :: digits) (decimalValue digits)

/-- The digits of a number write it. -/
theorem writesSize_decimal (n : Nat) : WritesSize (decimal n) n := by
  have hwritten := WritesSize.plain (isDecimal_decimal n)
  rwa [decimalValue_decimal] at hwritten

/-- Digits have no plus sign to take off. -/
theorem withoutPlus_eq {digits : List Char} (h : isDecimal digits = true) :
    withoutPlus digits = digits := by
  rw [withoutPlus.eq_def]
  split
  · exact absurd ((isDecimal_iff.mp h).2 '+' List.mem_cons_self) (by decide)
  · rfl

/-- What is read as a size is a number written as one, and not too large. -/
theorem size?_eq_some {s : List Char} {n : Nat} :
    size? s = some n ↔ WritesSize s n ∧ n < Machine.sizeLimit := by
  rw [size?]
  constructor
  · intro h
    split at h
    · rename_i hread
      rw [Bool.and_eq_true, decide_eq_true_eq] at hread
      obtain ⟨hdigits, hlimit⟩ := hread
      cases h
      refine ⟨?_, hlimit⟩
      rw [withoutPlus.eq_def] at hdigits ⊢
      split at hdigits
      · exact .signed hdigits
      · exact .plain hdigits
    · cases h
  · rintro ⟨hwritten, hlimit⟩
    cases hwritten with
    | plain decimal => simp [withoutPlus_eq decimal, decimal, hlimit]
    | signed decimal => simp [withoutPlus, decimal, hlimit]

namespace WritesSize

variable {s : List Char} {n : Nat}

/-- A written size is not empty. -/
theorem ne_nil (h : WritesSize s n) : s ≠ [] := by
  cases h with
  | plain decimal => exact (isDecimal_iff.mp decimal).1
  | signed decimal => exact List.cons_ne_nil _ _

/-- A written size consists of digits and a plus sign. -/
theorem eq_plus_or_isDigit (h : WritesSize s n) : ∀ c ∈ s, c = '+' ∨ c.isDigit = true := by
  cases h with
  | plain decimal => exact fun c hc => Or.inr ((isDecimal_iff.mp decimal).2 c hc)
  | signed decimal =>
    exact List.forall_mem_cons.mpr
      ⟨Or.inl rfl, fun c hc => Or.inr ((isDecimal_iff.mp decimal).2 c hc)⟩

/-- Digits write one number only. -/
theorem eq_decimalValue (h : WritesSize s n) (hdigits : isDecimal s = true) :
    n = decimalValue s := by
  cases h with
  | plain _ => rfl
  | signed _ => exact absurd ((isDecimal_iff.mp hdigits).2 '+' List.mem_cons_self) (by decide)

end WritesSize

end ContractToolkit.Text
