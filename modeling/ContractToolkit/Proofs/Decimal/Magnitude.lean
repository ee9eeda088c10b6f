import ContractToolkit.Decimal.Double
import Mathlib.Algebra.Group.Nat.Defs

/-!
# Magnitudes of doubles

A quotient below a power of two is rounded to a double whose exponent is at most
four above that power's, and a double is at most so far above the power of two
that its exponent stands for. The bounds are not the best ones; they are enough
to see that products of doubles of moderate size are finite.
-/

namespace ContractToolkit.Double

/-- Rounding to an integer does not pass a bound that is one. -/
theorem roundDiv_le {num den bound : Nat} (hden : 0 < den) (h : num < den * bound) :
    roundDiv num den ≤ bound := by
  have hfloor : num / den < bound := (Nat.div_lt_iff_lt_mul hden).mpr (Nat.mul_comm den bound ▸ h)
  rw [roundDiv]
  split
  · omega
  · split
    · omega
    · split <;> omega

/-- Numbers are in order when their lengths in binary are. -/
theorem mul_pow_lt {num den a b : Nat} (hden : den ≠ 0)
    (h : Nat.log2 num + 1 + a ≤ Nat.log2 den + b) : num * 2 ^ a < den * 2 ^ b :=
  calc num * 2 ^ a
      < 2 ^ (Nat.log2 num + 1) * 2 ^ a :=
        Nat.mul_lt_mul_of_pos_right Nat.lt_log2_self (Nat.two_pow_pos a)
    _ = 2 ^ (Nat.log2 num + 1 + a) := (Nat.pow_add 2 _ a).symm
    _ ≤ 2 ^ (Nat.log2 den + b) := Nat.pow_le_pow_right (by decide) h
    _ = 2 ^ Nat.log2 den * 2 ^ b := Nat.pow_add 2 _ b
    _ ≤ den * 2 ^ b := Nat.mul_le_mul_right _ (Nat.log2_self_le hden)

/-- The greatest power of two in a quotient is the difference of the lengths in binary, or one
less. -/
theorem floorLog2_bounds (num den : Nat) :
    (Nat.log2 num : Int) - Nat.log2 den - 1 ≤ floorLog2 num den ∧
      floorLog2 num den ≤ (Nat.log2 num : Int) - Nat.log2 den := by
  rw [floorLog2]
  dsimp only
  split <;> omega

/-- The exponent of a quotient below a power of two is at most that power's. -/
theorem floorLog2_le {num den power : Nat} (hnum : num ≠ 0) (h : num < den * 2 ^ power) :
    floorLog2 num den ≤ power := by
  have hlog : Nat.log2 num < Nat.log2 den + 1 + power := by
    rw [Nat.log2_lt hnum, Nat.pow_add]
    exact Nat.lt_of_lt_of_le h (Nat.mul_le_mul_right _ (Nat.le_of_lt Nat.lt_log2_self))
  have hbounds := floorLog2_bounds num den
  omega

/-- The exponent of a number made of its bits. -/
theorem exponentField_ofFields {rest : Nat} (h : rest < 2 ^ 63) :
    (ofFields false rest).exponentField = rest / 2 ^ 52 := by
  have hbits : (ofFields false rest).bits.toNat = rest := by
    rw [ofFields, if_neg Bool.false_ne_true, BitVec.toNat_ofNat]
    omega
  rw [exponentField, hbits]
  change rest / 2 ^ 52 % 2 ^ 11 = _
  omega

/-- A quotient scaled by the power of two that leaves it 54 bits is rounded to 54 bits. -/
theorem roundDiv_scaled_le {num den : Nat} {q : Int} (hden : 0 < den)
    (hq : (Nat.log2 num : Int) - Nat.log2 den + 1 ≤ q + 54) :
    (if 0 ≤ q then roundDiv num (den * 2 ^ q.toNat)
      else roundDiv (num * 2 ^ (-q).toNat) den) ≤ 2 ^ 54 := by
  have hne : den ≠ 0 := Nat.ne_of_gt hden
  split
  · have hbits : num * 2 ^ 0 < den * 2 ^ (q.toNat + 54) := mul_pow_lt hne (by omega)
    rw [Nat.pow_zero, Nat.mul_one, Nat.pow_add, ← Nat.mul_assoc] at hbits
    exact roundDiv_le (Nat.mul_pos hden (Nat.two_pow_pos _)) hbits
  · exact roundDiv_le hden (mul_pow_lt hne (by omega))

/-- A number made of a significand and an exponent has that exponent or a few more. -/
theorem exponentField_assembled_le {m power : Nat} {q : Int} (hm : m ≤ 2 ^ 54)
    (hq : -1074 ≤ q ∧ q + 52 ≤ power) (hpower : power ≤ 1020) {rest : Int}
    (hrest : rest = if m < 2 ^ 52 then (m : Int) else (q + 1074) * (2 ^ 52 : Nat) + m) :
    (if rest < 2047 * (2 ^ 52 : Nat) then ofFields false rest.toNat
      else infinity false).exponentField ≤ power + 1026 := by
  have hbound : 0 ≤ rest ∧ rest ≤ (power + 1026) * 2 ^ 52 := by
    rw [hrest]
    split <;> omega
  rw [if_pos (by omega), exponentField_ofFields (by omega)]
  omega

/-- A quotient below a power of two has a bounded exponent when it is rounded. -/
theorem exponentField_ofRatio_le {num den power : Nat} (hden : 0 < den)
    (h : num < den * 2 ^ power) (hpower : power ≤ 1020) :
    (ofRatio false num den).exponentField ≤ power + 1026 := by
  rw [ofRatio]
  split
  · rw [zero, exponentField_ofFields (by decide)]
    omega
  · rename_i hnum
    have hbounds := floorLog2_bounds num den
    have htop := floorLog2_le hnum h
    have hscaled := @roundDiv_scaled_le num den (max (floorLog2 num den - 52) (-1074)) hden
      (by omega)
    exact exponentField_assembled_le hscaled (by omega) hpower rfl

/-- A double below a power of two. -/
structure Within (d : Double) (power : Nat) : Prop where
  /-- The ratio that it stands for has a denominator. -/
  pos : 0 < d.ratio.2
  /-- The ratio is below the power. -/
  lt : d.ratio.1 < d.ratio.2 * 2 ^ power

/-- A double is below a power of two when its exponent is. -/
theorem within_of_exponentField_le {d : Double} {power : Nat}
    (h : d.exponentField ≤ power + 1022) (hpower : 53 ≤ power) : Within d power := by
  have hfraction : d.fraction < 2 ^ 52 := Nat.mod_lt _ (by decide)
  have hsignificand : d.significand < 2 ^ 53 := by
    rw [significand]
    change (if d.exponentField = 0 then d.fraction else 2 ^ 52 + d.fraction) < _
    split <;> omega
  have hexponent : d.exponent + 53 ≤ power := by
    rw [exponent]
    split <;> omega
  have hratio : d.ratio = if 0 ≤ d.exponent then (d.significand * 2 ^ d.exponent.toNat, 1)
      else (d.significand, 2 ^ (-d.exponent).toNat) := rfl
  have hbound : 2 ^ 53 ≤ 2 ^ power := Nat.pow_le_pow_right (by decide) hpower
  by_cases hsign : 0 ≤ d.exponent
  · rw [if_pos hsign] at hratio
    have hshift : 2 ^ 53 * 2 ^ d.exponent.toNat ≤ 2 ^ power := by
      rw [← Nat.pow_add]
      exact Nat.pow_le_pow_right (by decide) (by omega)
    have hlt := Nat.mul_lt_mul_of_pos_right hsignificand (Nat.two_pow_pos d.exponent.toNat)
    refine ⟨hratio ▸ Nat.one_pos, ?_⟩
    rw [hratio]
    omega
  · rw [if_neg hsign] at hratio
    have hpos := Nat.two_pow_pos (-d.exponent).toNat
    have hle := Nat.le_mul_of_pos_left (2 ^ power) hpos
    refine ⟨hratio ▸ hpos, ?_⟩
    rw [hratio]
    dsimp only
    omega

/-- A quotient below a power of two is rounded to a double below another one. -/
theorem within_ofRatio {num den power : Nat} (hden : 0 < den) (h : num < den * 2 ^ power)
    (hpower : power ≤ 1020) : Within (ofRatio false num den) (power + 53) := by
  have hexponent := exponentField_ofRatio_le hden h hpower
  exact within_of_exponentField_le (by omega) (by omega)

/-- A product of doubles of moderate size is finite. -/
theorem Within.isFinite_times {a b : Double} {m n : Nat} (ha : Within a m) (hb : Within b n)
    (h : m + n ≤ 1020) : (a.times b).isFinite = true := by
  have hproduct : a.ratio.1 * b.ratio.1 < a.ratio.2 * b.ratio.2 * 2 ^ (m + n) :=
    calc a.ratio.1 * b.ratio.1
        < a.ratio.2 * 2 ^ m * (b.ratio.2 * 2 ^ n) := Nat.mul_lt_mul'' ha.lt hb.lt
      _ = a.ratio.2 * b.ratio.2 * 2 ^ (m + n) := by
        rw [Nat.pow_add, Nat.mul_mul_mul_comm]
  have hexponent := exponentField_ofRatio_le (Nat.mul_pos ha.pos hb.pos) hproduct h
  rw [isFinite, decide_eq_true_eq]
  change (ofRatio false (a.ratio.1 * b.ratio.1) (a.ratio.2 * b.ratio.2)).exponentField < 2047
  omega

end ContractToolkit.Double
