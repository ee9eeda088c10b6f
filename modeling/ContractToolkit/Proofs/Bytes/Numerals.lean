import ContractToolkit.Bytes.Basic
import Mathlib.Algebra.Group.Nat.Defs

/-!
# Octets as digits

A number below `256 ^ width` and its `width` octets determine each other, so a
256-bit word and its 32 octets, and an address and its 20, are two forms of
one thing. A longer form of the same number only has zeros in front.
-/

namespace ContractToolkit

namespace Bytes

/-- Reading digits after `start` only shifts `start` to the left. -/
theorem toNatFrom_eq (start : Nat) (bytes : Bytes) :
    toNatFrom start bytes = start * 256 ^ bytes.length + toNat bytes := by
  induction bytes generalizing start with
  | nil => simp [toNat, toNatFrom]
  | cons b rest ih =>
    have hstart := ih (start * 256 + b.toNat)
    have hzero := ih (0 * 256 + b.toNat)
    simp only [toNat, toNatFrom, List.foldl_cons, List.length_cons] at hstart hzero ⊢
    rw [hstart, hzero, Nat.pow_succ', Nat.add_mul, Nat.zero_mul, Nat.zero_add, Nat.mul_assoc,
      Nat.add_assoc]

/-- The digits of two byte strings in a row. -/
theorem toNat_append (high low : Bytes) :
    toNat (high ++ low) = toNat high * 256 ^ low.length + toNat low := by
  rw [← toNatFrom_eq]
  exact List.foldl_append

/-- One octet is one digit. -/
theorem toNat_singleton (b : UInt8) : toNat [b] = b.toNat := by
  simp [toNat, toNatFrom]

/-- A byte string writes a number of its width. -/
theorem toNat_lt (bytes : Bytes) : toNat bytes < 256 ^ bytes.length := by
  induction bytes with
  | nil => simp [toNat, toNatFrom]
  | cons b rest ih =>
    have hb := b.toNat_lt
    rw [show b :: rest = [b] ++ rest from rfl, toNat_append, toNat_singleton, List.length_append,
      List.length_singleton, Nat.pow_add, Nat.pow_one]
    have hmul := Nat.mul_le_mul_right (256 ^ rest.length) (show b.toNat + 1 ≤ 256 by omega)
    rw [Nat.add_mul, Nat.one_mul] at hmul
    omega

/-- The last `width` octets write the number modulo their range. -/
theorem toNat_ofNat (width n : Nat) : toNat (ofNat width n) = n % 256 ^ width := by
  induction width generalizing n with
  | zero => simp [ofNat, toNat, toNatFrom, Nat.mod_one]
  | succ width ih =>
    have hdigits : n % 256 ^ (width + 1) = n % 256 + 256 * (n / 256 % 256 ^ width) := by
      rw [Nat.pow_succ', Nat.mod_mul]
    rw [ofNat, toNat_append, ih, toNat_singleton, List.length_singleton, Nat.pow_one,
      UInt8.toNat_ofNat', hdigits]
    omega

/-- Octets are the digits of the number that they write. -/
theorem ofNat_toNat (bytes : Bytes) : ofNat bytes.length (toNat bytes) = bytes := by
  -- The induction is from the right, as `ofNat` splits off the last octet.
  induction h : bytes.length generalizing bytes with
  | zero =>
    rw [List.length_eq_zero_iff.mp h]
    rfl
  | succ width ih =>
    obtain ⟨front, last, rfl⟩ : ∃ front last, bytes = front ++ [last] :=
      ⟨bytes.dropLast, bytes.getLast (List.ne_nil_of_length_eq_add_one h),
        (List.dropLast_concat_getLast _).symm⟩
    have hlast := last.toNat_lt
    have hfront : front.length = width := by simpa using h
    rw [ofNat, toNat_append, toNat_singleton, List.length_singleton, Nat.pow_one]
    rw [show (toNat front * 256 + last.toNat) / 256 = toNat front by omega, ih front hfront]
    rw [show UInt8.ofNat (toNat front * 256 + last.toNat) = last by
      apply UInt8.toNat_inj.mp
      rw [UInt8.toNat_ofNat']
      omega]

/-- More octets of a number: the digits that do not fit stand in front. -/
theorem ofNat_add (high low n : Nat) :
    ofNat (high + low) n = ofNat high (n / 256 ^ low) ++ ofNat low n := by
  induction low generalizing n with
  | zero => simp [ofNat]
  | succ low ih =>
    rw [← Nat.add_assoc, ofNat, ih, ofNat, List.append_assoc, Nat.div_div_eq_div_mul,
      Nat.pow_succ']

/-- The octets of zero. -/
theorem ofNat_zero (width : Nat) : ofNat width 0 = zeros width := by
  induction width with
  | zero => rfl
  | succ width ih => rw [ofNat, Nat.zero_div, ih, zeros, zeros, List.replicate_succ']; rfl

@[simp] theorem length_zeros (count : Nat) : (zeros count).length = count :=
  List.length_replicate ..

/-- Octets without one that is set are zeros. -/
theorem any_ne_zero_eq_false {bytes : Bytes} :
    bytes.any (· != 0) = false ↔ bytes = zeros bytes.length := by
  rw [zeros, List.eq_replicate_iff]
  simp

end Bytes

/-- A word is written by its octets. -/
@[simp] theorem Word.ofBytes_bytes (w : Word) : Word.ofBytes (Word.bytes w) = w := by
  apply BitVec.eq_of_toNat_eq
  rw [Word.ofBytes, Word.bytes, Bytes.toNat_ofNat, BitVec.toNat_ofNat]
  have hw : w.toNat < 2 ^ 256 := w.isLt
  omega

/-- The octets of the word that 32 octets write. -/
theorem Word.bytes_ofBytes {bytes : Bytes} (h : bytes.length = 32) :
    Word.bytes (Word.ofBytes bytes) = bytes := by
  have hlt := Bytes.toNat_lt bytes
  rw [h] at hlt
  rw [Word.bytes, Word.ofBytes, BitVec.toNat_ofNat, Nat.mod_eq_of_lt (by omega), ← h,
    Bytes.ofNat_toNat]

/-- An address is written by its octets. -/
@[simp] theorem Address.ofBytes_bytes (a : Address) : Address.ofBytes (Address.bytes a) = a := by
  apply BitVec.eq_of_toNat_eq
  rw [Address.ofBytes, Address.bytes, Bytes.toNat_ofNat, BitVec.toNat_ofNat]
  have ha : a.toNat < 2 ^ 160 := a.isLt
  omega

/-- The octets of the address that 20 octets write. -/
theorem Address.bytes_ofBytes {bytes : Bytes} (h : bytes.length = 20) :
    Address.bytes (Address.ofBytes bytes) = bytes := by
  have hlt := Bytes.toNat_lt bytes
  rw [h] at hlt
  rw [Address.bytes, Address.ofBytes, BitVec.toNat_ofNat, Nat.mod_eq_of_lt (by omega), ← h,
    Bytes.ofNat_toNat]

/-- A selector is written by its octets. -/
@[simp] theorem Selector.ofBytes_bytes (s : Selector) :
    Selector.ofBytes (Selector.bytes s) = s := by
  apply BitVec.eq_of_toNat_eq
  rw [Selector.ofBytes, Selector.bytes, Bytes.toNat_ofNat, BitVec.toNat_ofNat]
  have hs : s.toNat < 2 ^ 32 := s.isLt
  omega

end ContractToolkit
