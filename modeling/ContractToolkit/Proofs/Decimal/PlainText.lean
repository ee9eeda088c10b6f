import ContractToolkit.Decimal.Layout
import ContractToolkit.Proofs.Text.Positional

/-!
# Digits set out with their decimals

Digits that are set out positionally are a whole part and, when they reach below
one, a point and decimals. Together the two parts write the digits as a number of
units of the last decimal; fewer decimals write the units that are so many times as
large, and what is less than one of these is cut off.
-/

namespace ContractToolkit.Double.Digits

open Text

/-- The number that digits are, counted in units of the decimal at a place behind the point. What is
less than a unit is cut off. -/
def units (places : Nat) (d : Digits) : Nat :=
  if 0 ≤ d.exponent + places then d.value * 10 ^ (d.exponent + places).toNat
  else d.value / 10 ^ (-(d.exponent + places)).toNat

/-- How many decimals digits have. -/
def decimals (d : Digits) : Nat := (-d.exponent).toNat

variable {d : Digits}

/-- Further places than there are decimals count for zeros. -/
theorem units_of_le {places : Nat} (h : d.decimals ≤ places) :
    d.units places = d.units d.decimals * 10 ^ (places - d.decimals) := by
  rw [decimals] at h ⊢
  have hplaces : 0 ≤ d.exponent + places := by omega
  have hdecimals : 0 ≤ d.exponent + (-d.exponent).toNat := by omega
  have hsum : (d.exponent + places).toNat =
      (d.exponent + (-d.exponent).toNat).toNat + (places - (-d.exponent).toNat) := by omega
  rw [units, units, if_pos hplaces, if_pos hdecimals, hsum, Nat.pow_add, Nat.mul_assoc]

/-- Fewer places than there are decimals cut off what is below them. -/
theorem units_of_ge {places : Nat} (h : places ≤ d.decimals) :
    d.units places = d.units d.decimals / 10 ^ (d.decimals - places) := by
  rw [decimals] at h ⊢
  cases Nat.eq_or_lt_of_le h with
  | inl heq => rw [← heq, Nat.sub_self, Nat.pow_zero, Nat.div_one]
  | inr hlt =>
    have hplaces : ¬ 0 ≤ d.exponent + places := by omega
    have hdecimals : d.exponent + (-d.exponent).toNat = 0 := by omega
    have hrest : (-(d.exponent + places)).toNat = (-d.exponent).toNat - places := by omega
    rw [units, units, if_neg hplaces, hdecimals, if_pos (Int.le_refl 0), hrest, Int.toNat_zero,
      Nat.pow_zero, Nat.mul_one]

/-- A whole part, and decimals behind a point if there are any. -/
def pointed (whole behind : List Char) : List Char :=
  if behind = [] then whole else whole ++ '.' :: behind

/-- Parts in which digits are set out: together they write the digits in units of the last decimal.
-/
structure Parts (d : Digits) (whole behind : List Char) : Prop where
  /-- Each decimal has its place. -/
  places : behind.length = d.decimals
  /-- The digits of both parts write the number. -/
  value : Writes 10 (whole ++ behind) (d.units d.decimals)

/-- Every number is set out in such parts. -/
theorem exists_parts (d : Digits) :
    ∃ whole behind, Parts d whole behind ∧ d.positional = pointed whole behind := by
  have hdigits := writes_decimal d.value
  rw [positional]
  dsimp only
  split
  · rename_i hinteger
    have hplaces : 0 = d.decimals := by rw [decimals]; omega
    have hunits : d.units d.decimals = d.value * 10 ^ d.exponent.toNat := by
      rw [← hplaces, units, Int.natCast_zero, Int.add_zero, if_pos hinteger]
    have hpointed (whole : List Char) : whole = pointed whole [] := (if_pos rfl).symm
    split
    · rename_i hzero
      refine ⟨['0'], [], ⟨hplaces, ?_⟩, hpointed _⟩
      rw [hunits, hzero, Nat.zero_mul]
      exact writes_zeros (by decide) 1
    · have hvalue := hdigits.append (writes_zeros (by decide) d.exponent.toNat)
      rw [List.length_replicate, Nat.add_zero, ← hunits] at hvalue
      refine ⟨_, [], ⟨hplaces, ?_⟩, hpointed _⟩
      rwa [List.append_nil]
  · rename_i hbroken
    have hpositive : 0 < d.decimals := by rw [decimals]; omega
    have hunits : d.units d.decimals = d.value := by
      have hexponent : d.exponent + (-d.exponent).toNat = 0 := by omega
      rw [decimals, units, hexponent, if_pos (Int.le_refl 0), Int.toNat_zero, Nat.pow_zero,
        Nat.mul_one]
    have hpointed (whole : List Char) {behind : List Char} (h : behind.length = d.decimals) :
        whole ++ '.' :: behind = pointed whole behind := by
      have hsome : behind ≠ [] := by
        rintro rfl
        rw [← h] at hpositive
        exact absurd hpositive (Nat.lt_irrefl 0)
      exact (if_neg hsome).symm
    rw [← decimals]
    split
    · rename_i hfew
      have hplaces : ((decimal d.value).drop ((decimal d.value).length - d.decimals)).length =
          d.decimals := by
        rw [List.length_drop]
        omega
      refine ⟨_, _, ⟨hplaces, ?_⟩, hpointed _ hplaces⟩
      rwa [List.take_append_drop, hunits]
    · rename_i hmany
      have hplaces : (List.replicate (d.decimals - (decimal d.value).length) '0' ++
          decimal d.value).length = d.decimals := by
        rw [List.length_append, List.length_replicate]
        omega
      refine ⟨['0'], _, ⟨hplaces, ?_⟩, hpointed ['0'] hplaces⟩
      have hvalue := (writes_zeros (by decide) (d.decimals - (decimal d.value).length + 1)).append
        hdigits
      rw [Nat.zero_mul, Nat.zero_add] at hvalue
      rwa [hunits]

/-- Of parts that are cut behind some decimals the digits write what fits into the places that are
left. -/
theorem Parts.cut {whole behind : List Char} (h : d.Parts whole behind) (places : Nat) :
    Writes 10 (whole ++ behind.take places) (d.units (min places d.decimals)) := by
  have hvalue := h.value
  rw [← List.take_append_drop places behind, ← List.append_assoc] at hvalue
  have hfront := hvalue.front (by decide)
  rw [List.length_drop, h.places] at hfront
  cases Nat.le_total places d.decimals with
  | inl hle =>
    rw [Nat.min_eq_left hle, units_of_ge hle]
    exact hfront
  | inr hge =>
    rw [Nat.sub_eq_zero_of_le hge, Nat.pow_zero, Nat.div_one] at hfront
    rw [Nat.min_eq_right hge]
    exact hfront

end ContractToolkit.Double.Digits
