import ContractToolkit.Proofs.Abi.Layout
import ContractToolkit.Proofs.Abi.Reads

/-!
# Values in one word

An elementary value is decoded from the word that the encoder writes for it and
from no other. For integers this says which words are taken: a word without a
sign when its number is in the range of the width, a word with a sign when all
bits from the sign of the width upwards are the same.
-/

namespace ContractToolkit

/-- A number is below a power of two exactly when all its bits from there on are clear. -/
theorem lt_two_pow_iff_testBit {x k : Nat} : x < 2 ^ k ↔ ∀ i, k ≤ i → x.testBit i = false := by
  constructor
  · intro h i hi
    exact Nat.testBit_lt_two_pow (Nat.lt_of_lt_of_le h (Nat.pow_le_pow_right (by omega) hi))
  · exact Nat.lt_pow_two_of_testBit x

/-- The bits of a 256-bit word from the sign of a width on are the same as that of the word. -/
def SignExtended (x bits : Nat) : Prop := ∀ i < 256, bits - 1 ≤ i → x.testBit i = x.testBit 255

instance (x bits : Nat) : Decidable (SignExtended x bits) :=
  Nat.decidableBallLT 256 fun i _ => bits - 1 ≤ i → x.testBit i = x.testBit 255

/-- The signed number of a word: less by the whole range where the last bit is set. -/
theorem toInt_eq_testBit (w : Word) :
    w.toInt = if w.toNat.testBit 255 then (w.toNat : Int) - 2 ^ 256 else (w.toNat : Int) := by
  rw [BitVec.toInt_eq_msb_cond, BitVec.msb_eq_getLsbD_last, BitVec.testBit_toNat, Int.natCast_pow]
  rfl

/-- The bits above the sign of a width are those of the sign exactly when the signed number of the
word is in the range of the width. -/
theorem signExtended_iff {w : Word} {bits : Nat} :
    SignExtended w.toNat bits ↔
      -(2 : Int) ^ (bits - 1) ≤ w.toInt ∧ w.toInt < (2 : Int) ^ (bits - 1) := by
  have hw : w.toNat < 2 ^ 256 := w.isLt
  have hpow : (0 : Int) < 2 ^ (bits - 1) := Int.pow_pos (by decide)
  have hcast : ((2 ^ (bits - 1) : Nat) : Int) = 2 ^ (bits - 1) := Int.natCast_pow 2 (bits - 1)
  cases hsign : w.toNat.testBit 255 with
  | false =>
    have hclear : SignExtended w.toNat bits ↔ w.toNat < 2 ^ (bits - 1) := by
      rw [lt_two_pow_iff_testBit, SignExtended, hsign]
      constructor
      · intro h i hi
        by_cases hinside : i < 256
        · exact h i hinside hi
        · exact lt_two_pow_iff_testBit.mp hw i (Nat.not_lt.mp hinside)
      · intro h i _ hi
        exact h i hi
    have hint : w.toInt = w.toNat := by
      rw [toInt_eq_testBit, hsign, if_neg Bool.false_ne_true]
    rw [hclear, hint]
    omega
  | true =>
    -- The clear bits of a negative number are the set ones of its complement.
    have hset : SignExtended w.toNat bits ↔ 2 ^ 256 - (w.toNat + 1) < 2 ^ (bits - 1) := by
      rw [lt_two_pow_iff_testBit, SignExtended, hsign]
      constructor
      · intro h i hi
        rw [Nat.testBit_two_pow_sub_succ hw]
        by_cases hinside : i < 256
        · rw [h i hinside hi, Bool.not_true, Bool.and_false]
        · rw [decide_eq_false hinside, Bool.false_and]
      · intro h i hinside hi
        have hbit := h i hi
        rw [Nat.testBit_two_pow_sub_succ hw, decide_eq_true hinside, Bool.true_and] at hbit
        simpa using hbit
    have hint : w.toInt = w.toNat - 2 ^ 256 := by
      rw [toInt_eq_testBit, hsign, if_pos rfl]
    rw [hset, hint]
    omega

namespace Abi

/-- A word is all the data that it is read from. -/
theorem wordAt_bytes {w : Word} {octets : Bytes} :
    wordAt (Word.bytes w) 0 = .ok octets ↔ octets = Word.bytes w := by
  rw [wordAt_eq_ok]
  constructor
  · rintro ⟨hlength, hstands, -⟩
    have hwhole : (Word.bytes w).length ≤ wordSize := Nat.le_of_eq (Word.length_bytes w)
    rw [Bytes.holdsAt_iff, hlength, List.drop_zero, List.take_of_length_le hwhole] at hstands
    exact hstands.2.symm
  · intro hoctets
    rw [hoctets]
    have hlimit : 0 + wordSize < Machine.sizeLimit := by decide
    have hlength : (Word.bytes w).length = wordSize := Word.length_bytes w
    exact ⟨hlength, Bytes.HoldsAt.self (Word.bytes w), hlimit⟩

/-- One elementary value is decoded from the word that the encoder writes for it. -/
theorem decodeSingle_elementary {t : Ty} {w : Word} {v : Value} (elementary : t.isHashed = false)
    (hdeclared : t.fault? = none) :
    decodeSingle t (Word.bytes w) = .ok v ↔ HasType v t ∧ v.octets = Word.bytes w := by
  obtain ⟨hstatic, hsize⟩ := Ty.headSize_elementary elementary
  have hplace {place : Nat} : placeOf (Word.bytes w) 0 0 t = .ok place ↔ place = 0 := by
    rw [placeOf_eq_ok, hstatic, if_neg Bool.false_ne_true]
  have hnext : nextHead 0 t = .ok wordSize :=
    nextHead_eq_ok.mpr ⟨wordSize, hsize, by rw [Nat.zero_add], by decide⟩
  rw [decodeSingle_eq_ok]
  simp only [hplace, exists_eq_left, reads_word_iff elementary, wordAt_bytes]
  constructor
  · rintro ⟨-, hword, -⟩
    exact hword
  · intro hword
    exact ⟨hdeclared, hword, wordSize, hnext⟩

/-- One value is encoded exactly when it has its own type and that type can be declared. -/
theorem encodeSingle_eq_ok {v : Value} {octets : Bytes} (hstatic : v.isDynamic = false) :
    encodeSingle v = .ok octets ↔
      HasType v v.ty ∧ v.ty.fault? = none ∧ octets = v.octets := by
  have hlaid : layOut (Value.parts [v]) = v.octets := by
    rw [layOut_single, Ty.lead, v.isDynamic_ty, hstatic, if_neg Bool.false_ne_true, List.nil_append]
  rw [encodeSingle, encode_eq_ok, hlaid]
  constructor
  · rintro ⟨htypes, hfaults, rfl⟩
    cases htypes with
    | cons typed _ =>
      rw [Value.tys, Ty.faults?, Option.or_eq_none_iff] at hfaults
      exact ⟨typed, hfaults.1, rfl⟩
  · rintro ⟨typed, hdeclared, rfl⟩
    exact ⟨.cons typed .nil, by simp [Value.tys, Ty.faults?, hdeclared], rfl⟩

/-- One elementary value is decoded from 32 octets exactly when they are its encoding. -/
theorem decodeSingle_word {t : Ty} {octets : Bytes} {v : Value} (hlength : octets.length = 32)
    (elementary : t.isHashed = false) (hdeclared : t.fault? = none) :
    decodeSingle t octets = .ok v ↔ HasType v t ∧ v.octets = octets := by
  rw [← Word.bytes_ofBytes hlength]
  exact decodeSingle_elementary elementary hdeclared

/-- One elementary value is encoded as the octets that it is decoded from. -/
theorem encodeSingle_of_decodeSingle {t : Ty} {octets : Bytes} {v : Value}
    (hlength : octets.length = 32) (elementary : t.isHashed = false) (hdeclared : t.fault? = none)
    (h : decodeSingle t octets = .ok v) : encodeSingle v = .ok octets := by
  obtain ⟨typed, hoctets⟩ := (decodeSingle_word hlength elementary hdeclared).mp h
  have hty := typed.ty_eq
  have hstatic : v.isDynamic = false := by
    rw [← v.isDynamic_ty, hty]
    exact (Ty.headSize_elementary elementary).1
  rw [encodeSingle_eq_ok hstatic, hty]
  exact ⟨typed, hdeclared, hoctets.symm⟩

/-- Integers in one word. Of 32 octets that write a number, an unsigned type of a width takes those
whose number is in its range, as that number. A signed type takes those in which all bits from its
sign on are the same, as that number less the whole range where they are set. The encoder writes
each of these integers as the octets from which it was decoded. -/
theorem decodeSingle_integer_iff {octets : Bytes} {bits : Nat} (hlength : octets.length = 32)
    (hlow : 8 ≤ bits) (hhigh : bits ≤ 256) (hwidth : bits % 8 = 0) :
    (∀ v, decodeSingle (.uint bits) octets = .ok v ↔ octets.toNat < 2 ^ bits ∧
        ∃ w : Word, v = .uint w bits ∧ w.toNat = octets.toNat) ∧
      (∀ v, decodeSingle (.int bits) octets = .ok v ↔ SignExtended octets.toNat bits ∧
        ∃ w : Word, v = .int w bits ∧ w.toInt =
          if octets.toNat.testBit 255 then (octets.toNat : Int) - 2 ^ 256
          else (octets.toNat : Int)) ∧
      ∀ t v, t = .uint bits ∨ t = .int bits → decodeSingle t octets = .ok v →
        encodeSingle v = .ok octets := by
  have hfault : Ty.widthFault? bits = none := by
    rw [Ty.widthFault?, if_neg (by omega)]
  have hword {w : Word} : Word.bytes w = octets ↔ w = Word.ofBytes octets :=
    ⟨fun h => h ▸ (Word.ofBytes_bytes w).symm, fun h => h ▸ Word.bytes_ofBytes hlength⟩
  have hnumber : octets.toNat = (Word.ofBytes octets).toNat := by
    have hlt := Bytes.toNat_lt octets
    rw [hlength] at hlt
    rw [Word.ofBytes, BitVec.toNat_ofNat, Nat.mod_eq_of_lt (by omega)]
  rw [hnumber, ← toInt_eq_testBit]
  refine ⟨fun v => ?unsigned, fun v => ?signed, fun t v ht hdecode => ?encoded⟩
  case unsigned =>
    rw [decodeSingle_word (t := .uint bits) hlength rfl hfault]
    constructor
    · rintro ⟨typed, hoctets⟩
      cases typed with
      | uint hrange =>
        obtain rfl := hword.mp hoctets
        exact ⟨hrange, _, rfl, rfl⟩
    · rintro ⟨hrange, w, rfl, hw⟩
      obtain rfl := BitVec.eq_of_toNat_eq hw
      exact ⟨.uint hrange, hword.mpr rfl⟩
  case signed =>
    rw [decodeSingle_word (t := .int bits) hlength rfl hfault, signExtended_iff]
    constructor
    · rintro ⟨typed, hoctets⟩
      cases typed with
      | int _ low high =>
        obtain rfl := hword.mp hoctets
        exact ⟨⟨low, high⟩, _, rfl, rfl⟩
    · rintro ⟨⟨low, high⟩, w, rfl, hw⟩
      obtain rfl := BitVec.eq_of_toInt_eq hw
      exact ⟨.int (by omega) low high, hword.mpr rfl⟩
  case encoded =>
    obtain rfl | rfl := ht
    · exact encodeSingle_of_decodeSingle (t := .uint bits) hlength rfl hfault hdecode
    · exact encodeSingle_of_decodeSingle (t := .int bits) hlength rfl hfault hdecode

/-- The least integer of 16 bits: all bits from its sign on are set. It is none of 8 bits, and as a
number without a sign it is none of 16. -/
theorem decodeSingle_integer_iff_least :
    let octets := Word.bytes (-32768)
    (octets.length = 32 ∧ 8 ≤ 16 ∧ 16 ≤ 256 ∧ 16 % 8 = 0) ∧
      decodeSingle (.int 16) octets = .ok (.int (-32768) 16) ∧
        (∀ v, decodeSingle (.int 8) octets ≠ .ok v) ∧
          (∀ v, decodeSingle (.uint 16) octets ≠ .ok v) ∧
            encodeSingle (.int (-32768) 16) = .ok octets := by
  intro octets
  have hlength : octets.length = 32 := Word.length_bytes _
  have hnarrow := decodeSingle_integer_iff hlength (Nat.le_refl 8) (by decide) (by decide)
  have hwide := decodeSingle_integer_iff hlength (show 8 ≤ 16 by decide) (by decide) (by decide)
  have hdecode : decodeSingle (.int 16) octets = .ok (.int (-32768) 16) :=
    (hwide.2.1 _).mpr ⟨by decide +kernel, _, rfl, by decide +kernel⟩
  refine ⟨⟨hlength, by decide, by decide, by decide⟩, hdecode, fun v hv => ?_,
    fun v hv => ?_, hwide.2.2 _ _ (Or.inr rfl) hdecode⟩
  · have hsign := ((hnarrow.2.1 v).mp hv).1
    revert hsign
    decide +kernel
  · have hrange := ((hwide.1 v).mp hv).1
    revert hrange
    decide +kernel

end Abi

end ContractToolkit
