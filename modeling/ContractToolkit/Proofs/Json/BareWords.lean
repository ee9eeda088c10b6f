import ContractToolkit.Proofs.Decimal.Magnitude
import ContractToolkit.Proofs.Json.ReadBack

/-!
# Words without quotes

The digits of an integer are JSON, whatever its size: a number of 64 bits is
that integer, and a longer one is a double, of which the leading digits are
kept. The hexadecimal digits of octets are no JSON, since nothing but digits, a
fraction or an exponent can follow the zero in front of them.
-/

namespace ContractToolkit.Json

open JsonDraft

/-- The digits that are kept fit 64 bits, and there are not more digits left over than before. -/
theorem keepDigits_bounds {kept : Nat} (hkept : kept < Machine.sizeLimit) (digits : List Char) :
    (keepDigits kept digits).1 < Machine.sizeLimit ∧
      (keepDigits kept digits).2.length ≤ digits.length := by
  induction digits generalizing kept with
  | nil => exact ⟨hkept, Nat.le_refl 0⟩
  | cons c rest ih =>
    rw [keepDigits]
    split
    · rename_i hnext
      have hrest := ih hnext
      exact ⟨hrest.1, Nat.le_succ_of_le hrest.2⟩
    · exact ⟨hkept, Nat.le_refl _⟩

/-- The scaling of an integer of 64 bits by a moderate power of ten does not leave the doubles. -/
theorem scaleDouble_isSome {kept power : Nat} (hkept : kept < Machine.sizeLimit)
    (hpower : power ≤ 78) (fuel : Nat) :
    (scaleDouble (fuel + 1) (Double.ofNat false kept) power).isSome = true := by
  have hfirst : Double.Within (Double.ofNat false kept) 117 :=
    @Double.within_ofRatio kept 1 64 Nat.one_pos (Nat.one_mul _ ▸ hkept) (by decide)
  -- Each digit counts for four bits, which is enough to stay far below the largest double.
  have hten : 1 * 10 ^ power < 1 * 2 ^ (4 * power + 1) :=
    calc 1 * 10 ^ power ≤ 1 * 16 ^ power :=
          Nat.mul_le_mul_left 1 (Nat.pow_le_pow_left (by decide) power)
      _ = 1 * 2 ^ (4 * power) := by rw [Nat.pow_mul]
      _ < 1 * 2 ^ (4 * power + 1) :=
          Nat.mul_lt_mul_of_pos_left (Nat.pow_lt_pow_succ (by decide)) Nat.one_pos
  have hsecond : Double.Within (Double.ofDecimal false 1 (power : Int)) (4 * power + 1 + 53) := by
    have hdigits : (Nat.toDigits 10 1).length = 1 := rfl
    rw [Double.ofDecimal, hdigits, if_neg (by omega), if_neg (by omega), if_pos (by omega),
      Int.toNat_natCast]
    exact Double.within_ofRatio Nat.one_pos hten (by omega)
  have hfinite := hfirst.isFinite_times hsecond (by omega)
  rw [scaleDouble]
  simp only [Int.natAbs_natCast]
  rw [if_pos (Nat.le_trans hpower (by decide)), if_pos (Int.natCast_nonneg power), hfinite]
  rfl

/-- An integer of at most 78 digits is a double. -/
theorem NumberText.toDouble_isSome {n : Int} (h : n.natAbs < 10 ^ 78) :
    (ofInt n).toDouble.isSome = true := by
  have hlength : (Text.decimal n.natAbs).length ≤ 78 :=
    (Nat.length_toDigits_le_iff (by decide) (by decide)).mpr h
  have hzero : 0 < Machine.sizeLimit := by decide
  have hbounds := keepDigits_bounds hzero (Text.decimal n.natAbs)
  cases hkeep : keepDigits 0 (Text.decimal n.natAbs) with
  | mk kept lost =>
    rw [hkeep] at hbounds
    have hscaled := scaleDouble_isSome hbounds.1 (Nat.le_trans hbounds.2 hlength) 7
    obtain ⟨d, hd⟩ := Option.isSome_iff_exists.mp hscaled
    rw [toDouble, ofInt]
    simp [hkeep, keepDigits, hd]

/-- The digits of an integer are read as that integer as far as 64 bits hold it, and as a double
beyond. -/
theorem ofText_ofInt (n : Int) : Json.ofText (Text.ofInt n) =
    if -2 ^ 63 ≤ n ∧ n < Machine.sizeLimit then some (.integer n)
    else (NumberText.ofInt n).toDouble.map .double := by
  have hread := readValue_ofInt n (2 * (Text.ofInt n).toList.length + 1) closed_nil
  rw [List.append_nil] at hread
  rw [Json.ofText, JsonDraft.ofText, ofChars, hread, ← NumberText.value?_ofInt]
  rfl

/-- The digits of octets are no JSON. -/
theorem ofText_hex (bytes : Bytes) : Json.ofText bytes.hex = none := by
  rw [Bytes.hex, Json.ofText, JsonDraft.ofText, String.toList_ofList, ofChars,
    readValue_number (Or.inr rfl)]
  rfl

end ContractToolkit.Json
