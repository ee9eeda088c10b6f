import ContractToolkit.Proofs.Abi.JsonTyping

/-!
# What is encoded and what is refused

The encoder looks at a value from the outside in and stops at the first fault;
the types inside are looked at apart from the values of these types. What it
accepts is told here by everything in a value at once: the type of the whole can
be declared, every integer in it is in the range of its width, and every sequence
in it has members of the type that it declares. Nothing else is accepted, and
whatever is refused is refused as values that cannot be encoded.
-/

namespace ContractToolkit

/-- An error that reports values that cannot be encoded. -/
def Error.IsEncode (e : Error) : Prop := ∃ fault, e = .encode fault

namespace Abi

open Outcome

/-- Encoding fails with a report about the values and with nothing else. -/
theorem encode_failsWith (values : List Value) : FailsWith Error.IsEncode (encode values) := by
  rw [encode]
  split
  · exact .error ⟨_, rfl⟩
  · exact .ok _

/-- Encoding arguments fails with a report about the arguments and with nothing else. -/
theorem encodeParams_failsWith (types : List Ty) (values : List Value) :
    FailsWith Error.IsEncode (encodeParams types values) := by
  rw [encodeParams]
  split
  · exact .error ⟨_, rfl⟩
  · split
    · exact .error ⟨_, rfl⟩
    · exact encode_failsWith values

namespace Value

/-- The bound of a width below that of a word is a power of two. -/
theorem toNat_signBound {bits : Nat} (h : bits < 256) :
    (signBound bits).toNat = 2 ^ (bits - 1) := by
  have hpow : 2 ^ (bits - 1) < 2 ^ 256 := Nat.pow_lt_pow_right (by omega) (by omega)
  have hone : 1 % 2 ^ 256 = 1 := by decide
  rw [signBound, BitVec.toNat_shiftLeft, Nat.shiftLeft_eq, BitVec.toNat_ofNat, hone, Nat.one_mul,
    Nat.mod_eq_of_lt hpow]

/-- The range of a signed integer is tested by comparing words: only at the width of a word itself
would the bound be a negative one, and there every word is in the range. -/
theorem intFits_eq_compare (w : Word) (bits : Nat) :
    intFits w bits =
      (256 ≤ bits || ((-signBound bits).sle w && w.slt (signBound bits)) : Bool) := by
  by_cases hwide : 256 ≤ bits
  · simp [intFits, hwide]
  · have hnat := toNat_signBound (Nat.not_le.mp hwide)
    have hpow : 2 ^ (bits - 1) ≤ 2 ^ 254 := Nat.pow_le_pow_right (by omega) (by omega)
    have hbound : (signBound bits).toInt = 2 ^ (bits - 1) := by
      rw [BitVec.toInt_eq_toNat_of_lt (by omega), hnat]
      norm_cast
    have hneg : (-signBound bits).toInt = -2 ^ (bits - 1) := by
      have hlow : signBound bits ≠ BitVec.intMin 256 := by
        intro h
        have hmin := congrArg BitVec.toNat h
        rw [hnat, BitVec.toNat_intMin] at hmin
        omega
      rw [BitVec.toInt_neg_of_ne_intMin hlow, hbound]
    rw [intFits, BitVec.sle_eq_decide, BitVec.slt_eq_decide, hbound, hneg, Nat.pow_eq]
    norm_cast

/-- An integer is in the range of its width; nothing is asked of other values. -/
def InRange : Value → Prop
  | uint w bits => w.toNat < 2 ^ bits
  | int w bits => -(2 : Int) ^ (bits - 1) ≤ w.toInt ∧ w.toInt < (2 : Int) ^ (bits - 1)
  | _ => True

/-- A value has no fault in its range exactly when it is in it. -/
theorem rangeFault?_eq_none {v : Value} : v.rangeFault? = none ↔ v.InRange := by
  cases v <;> simp [rangeFault?, InRange]

/-- The type of a value can be declared, every integer in the value is in the range of its width,
and every sequence in it has members of the type that it declares. -/
def WellFormed (v : Value) : Prop :=
  v.ty.fault? = none ∧ ∀ node ∈ v.nodes, node.InRange ∧ node.MembersTyped

/-- The encoder accepts a value exactly when it is well formed. -/
theorem fault?_eq_none_iff {v : Value} : v.fault? = none ↔ v.WellFormed := by
  have hrange (hshaped : Shaped v v.ty) (hdeclared : v.ty.fault? = none) :
      v.fault? = none ↔ ∀ node ∈ v.nodes, node.InRange := by
    rw [hshaped.fault?_eq hdeclared, List.findSome?_eq_none_iff]
    exact forall₂_congr fun node _ => rangeFault?_eq_none
  constructor
  · intro h
    obtain ⟨typed, hdeclared⟩ := hasType_of_fault? h
    have hinside := (hrange typed.shaped hdeclared).mp h
    exact ⟨hdeclared, fun node hnode => ⟨hinside node hnode, typed.shaped.uniform node hnode⟩⟩
  · rintro ⟨hdeclared, hnodes⟩
    have huniform : v.Uniform := fun node hnode => (hnodes node hnode).2
    exact (hrange huniform.shaped hdeclared).mpr fun node hnode => (hnodes node hnode).1

/-- Values are accepted together exactly when each of them is well formed. -/
theorem faults?_eq_none_iff {values : List Value} :
    faults? values = none ↔ ∀ v ∈ values, v.WellFormed := by
  rw [faults?_eq_none]
  exact forall₂_congr fun v _ => fault?_eq_none_iff

end Value

/-- Values are encoded exactly when they are well formed. -/
theorem exists_encode_iff {values : List Value} :
    (∃ octets, encode values = .ok octets) ↔ ∀ v ∈ values, v.WellFormed := by
  rw [← Value.faults?_eq_none_iff]
  simp only [encode_eq_ok_iff, exists_and_left, exists_eq, and_true]

/-- The encoder accepts the well-formed values and no others; for declared types it accepts them
exactly when there are as many types and each is that of its value. Whatever it refuses is told as
values that cannot be encoded. -/
theorem encode_accepts_well_formed (types : List Ty) (values : List Value) :
    ((∃ octets, encode values = .ok octets) ↔ ∀ v ∈ values, v.WellFormed) ∧
      ((∃ octets, encodeParams types values = .ok octets) ↔
        values.map Value.ty = types ∧ ∀ v ∈ values, v.WellFormed) ∧
      FailsWith Error.IsEncode (encode values) ∧
        FailsWith Error.IsEncode (encodeParams types values) := by
  refine ⟨exists_encode_iff, ?_, encode_failsWith values, encodeParams_failsWith types values⟩
  rw [← exists_encode_iff, ← Value.tys_eq_map]
  simp only [encodeParams_eq_ok, exists_and_left]

/-- One integer that does not fit, deep inside a value that is right otherwise, is enough. -/
example : encode [.tuple [.array (.int 8) [.int (-128) 8, .int 128 8]]] =
    .error (.encode (.intRange 128 8)) := rfl

end Abi

end ContractToolkit
