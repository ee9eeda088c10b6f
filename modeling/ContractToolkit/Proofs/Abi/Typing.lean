import ContractToolkit.Abi.Encoding
import Mathlib.Algebra.Group.Int.Defs
import Mathlib.Algebra.Group.Nat.Defs

/-!
# Typed values

A value has a type when its integers are in the range of their width and every
member of a sequence or a tuple has the type that is declared for it, at any
depth. The types that contracts can declare are the business of `Ty.fault?`;
a value is accepted by the encoder exactly when it has its own type and that
type can be declared.
-/

namespace ContractToolkit.Abi

mutual

/-- A value has a type. -/
inductive HasType : Value → Ty → Prop
  | address (a : Address) : HasType (.address a) .address
  | uint {w : Word} {bits : Nat} (high : w.toNat < 2 ^ bits) : HasType (.uint w bits) (.uint bits)
  | int {w : Word} {bits : Nat} (pos : 0 < bits) (low : -(2 : Int) ^ (bits - 1) ≤ w.toInt)
      (high : w.toInt < 2 ^ (bits - 1)) : HasType (.int w bits) (.int bits)
  | bool (b : Bool) : HasType (.bool b) .bool
  | bytes (octets : Bytes) : HasType (.bytes octets) .bytes
  | fixedBytes (octets : Bytes) : HasType (.fixedBytes octets) (.fixedBytes octets.length)
  | string (s : String) : HasType (.string s) .string
  | array {elem : Ty} {items : List Value}
      (members : HaveTypes items (.replicate items.length elem)) :
      HasType (.array elem items) (.array elem)
  | fixedArray {elem : Ty} {items : List Value}
      (members : HaveTypes items (.replicate items.length elem)) :
      HasType (.fixedArray elem items) (.fixedArray elem items.length)
  | tuple {items : List Value} {fields : List Ty} (members : HaveTypes items fields) :
      HasType (.tuple items) (.tuple fields)

/-- Values have as many types, each its own. -/
inductive HaveTypes : List Value → List Ty → Prop
  | nil : HaveTypes [] []
  | cons {v : Value} {t : Ty} {values : List Value} {types : List Ty} (head : HasType v t)
      (tail : HaveTypes values types) : HaveTypes (v :: values) (t :: types)

end

mutual

/-- A value has no other type than the one it is encoded as. -/
theorem HasType.ty_eq {v : Value} {t : Ty} : HasType v t → v.ty = t
  | .address _ => rfl
  | .uint _ => rfl
  | .int _ _ _ => rfl
  | .bool _ => rfl
  | .bytes _ => rfl
  | .fixedBytes _ => rfl
  | .string _ => rfl
  | .array _ => rfl
  | .fixedArray _ => rfl
  | .tuple members => congrArg Ty.tuple members.tys_eq

/-- Values have no other types than those they are encoded as. -/
theorem HaveTypes.tys_eq {values : List Value} {types : List Ty} :
    HaveTypes values types → Value.tys values = types
  | .nil => rfl
  | .cons head tail => by rw [Value.tys, head.ty_eq, tail.tys_eq]

end

/-- There is one type for each value. -/
theorem Value.length_tys (values : List Value) : (Value.tys values).length = values.length := by
  induction values with
  | nil => rfl
  | cons v rest ih => rw [Value.tys, List.length_cons, List.length_cons, ih]

/-- The types of values one by one. -/
theorem Value.tys_eq_map (values : List Value) : Value.tys values = values.map Value.ty := by
  induction values with
  | nil => rfl
  | cons v rest ih => rw [Value.tys, List.map_cons, ih]

/-- Typed values are as many as their types. -/
theorem HaveTypes.length_eq {values : List Value} {types : List Ty} (h : HaveTypes values types) :
    values.length = types.length := by
  rw [← h.tys_eq, Value.length_tys]

namespace Ty

/-- Types can be declared exactly when each of them can. -/
theorem faults?_eq_none {types : List Ty} :
    faults? types = none ↔ ∀ t ∈ types, t.fault? = none := by
  induction types with
  | nil => simp [faults?]
  | cons t rest ih => simp [faults?, ih]

/-- A type can be declared as often as it can be declared once. -/
theorem faults?_replicate {elem : Ty} (h : elem.fault? = none) (count : Nat) :
    faults? (.replicate count elem) = none :=
  faults?_eq_none.mpr fun _ ht => List.eq_of_mem_replicate ht ▸ h

/-- A sequence of a declared length can be declared exactly when it is not empty and its elements
can be declared. -/
theorem fixedArray_fault?_eq_none {elem : Ty} {length : Nat} :
    (fixedArray elem length).fault? = none ↔ length ≠ 0 ∧ elem.fault? = none := by
  rw [fault?]
  split
  · simp_all
  · simp_all

/-- A byte string of a declared length can be declared exactly when it has an octet and fits into a
word. -/
theorem fixedBytes_fault?_eq_none {size : Nat} :
    (fixedBytes size).fault? = none ↔ size ≠ 0 ∧ size ≤ wordSize := by
  rw [fault?]
  split
  · simp only [reduceCtorEq, false_iff]
    omega
  · simp only [true_iff]
    omega

/-- An integer of a width that can be declared has a sign bit. -/
theorem pos_of_widthFault? {bits : Nat} (h : widthFault? bits = none) : 0 < bits := by
  refine Nat.pos_of_ne_zero fun hzero => ?_
  rw [widthFault?, if_pos (Or.inl hzero)] at h
  cases h

end Ty

namespace Value

/-- Values are accepted exactly when each of them is. -/
theorem faults?_eq_none {values : List Value} :
    faults? values = none ↔ ∀ v ∈ values, v.fault? = none := by
  induction values with
  | nil => simp [faults?]
  | cons v rest ih => simp [faults?, ih]

/-- The range of a signed integer; a word is in the range of every width from 256 on. -/
theorem intFits_iff {w : Word} {bits : Nat} :
    intFits w bits = true ↔
      -(2 : Int) ^ (bits - 1) ≤ w.toInt ∧ w.toInt < (2 : Int) ^ (bits - 1) := by
  simp only [intFits, Nat.pow_eq, Bool.or_eq_true, Bool.and_eq_true, decide_eq_true_eq,
    Int.natCast_pow, Int.cast_ofNat_Int]
  refine or_iff_right_of_imp fun hwide => ?_
  have hlow := w.le_toInt
  have hhigh := w.toInt_lt
  have hpow : (2 : Int) ^ (256 - 1) ≤ 2 ^ (bits - 1) := by
    exact_mod_cast Nat.pow_le_pow_right (show 0 < 2 by omega) (show 256 - 1 ≤ bits - 1 by omega)
  exact ⟨by omega, by omega⟩

/-- The members of a sequence are accepted exactly when all of them have the type of the elements
and are accepted as values. -/
theorem itemsFault?_eq_none {elem : Ty} {items : List Value} :
    itemsFault? elem items = none ↔
      tys items = .replicate items.length elem ∧ faults? items = none := by
  induction items with
  | nil => simp [itemsFault?, tys, faults?]
  | cons v rest ih =>
    by_cases hty : v.ty = elem
    · rw [itemsFault?, if_pos hty, Option.or_eq_none_iff, ih, tys, faults?, List.length_cons,
        List.replicate_succ, List.cons.injEq, Option.or_eq_none_iff]
      simp only [hty, true_and]
      exact and_left_comm
    · simp [itemsFault?, hty, tys, List.replicate_succ]

/-- An unsigned integer is accepted exactly when its width can be declared and it is in range. -/
theorem uintFault?_eq_none {w : Word} {bits : Nat} :
    uintFault? w bits = none ↔ Ty.widthFault? bits = none ∧ w.toNat < 2 ^ bits := by
  cases hwidth : Ty.widthFault? bits with
  | some fault => simp [uintFault?, hwidth]
  | none => simp [uintFault?, hwidth, Nat.pow_eq]

/-- A signed integer is accepted exactly when its width can be declared and it is in range. -/
theorem intFault?_eq_none {w : Word} {bits : Nat} :
    intFault? w bits = none ↔ Ty.widthFault? bits = none ∧ intFits w bits = true := by
  cases hwidth : Ty.widthFault? bits with
  | some fault => simp [intFault?, hwidth]
  | none => simp [intFault?, hwidth]

/-- A fixed byte string is accepted exactly when its type can be declared. -/
theorem fixedBytes_fault?_eq_none {octets : Bytes} :
    (fixedBytes octets).fault? = none ↔ (Ty.fixedBytes octets.length).fault? = none := by
  simp [fault?, Ty.fault?]

end Value

mutual

/-- The encoder accepts typed values of types that can be declared. -/
theorem HasType.fault?_eq_none {v : Value} {t : Ty} :
    HasType v t → t.fault? = none → v.fault? = none
  | .address _, _ => rfl
  | .uint high, ht => Value.uintFault?_eq_none.mpr ⟨ht, high⟩
  | .int _ low high, ht => Value.intFault?_eq_none.mpr ⟨ht, Value.intFits_iff.mpr ⟨low, high⟩⟩
  | .bool _, _ => rfl
  | .bytes _, _ => rfl
  | .fixedBytes _, ht => Value.fixedBytes_fault?_eq_none.mpr ht
  | .string _, _ => rfl
  | @HasType.array elem items members, ht => by
    have helem : elem.fault? = none := ht
    have hitems := members.faults?_eq_none (Ty.faults?_replicate helem _)
    rw [Value.fault?, helem, Value.itemsFault?_eq_none.mpr ⟨members.tys_eq, hitems⟩]
    rfl
  | @HasType.fixedArray elem items members, ht => by
    obtain ⟨hlength, helem⟩ := Ty.fixedArray_fault?_eq_none.mp ht
    have hitems := members.faults?_eq_none (Ty.faults?_replicate helem _)
    have hempty : ¬ items.isEmpty = true := by
      rwa [List.isEmpty_iff_length_eq_zero]
    rw [Value.fault?, if_neg hempty, helem,
      Value.itemsFault?_eq_none.mpr ⟨members.tys_eq, hitems⟩]
    rfl
  | .tuple members, ht => members.faults?_eq_none ht

/-- The encoder accepts lists of typed values of types that can be declared. -/
theorem HaveTypes.faults?_eq_none {values : List Value} {types : List Ty} :
    HaveTypes values types → Ty.faults? types = none → Value.faults? values = none
  | .nil, _ => rfl
  | .cons head tail, ht => by
    rw [Ty.faults?, Option.or_eq_none_iff] at ht
    rw [Value.faults?, head.fault?_eq_none ht.1, tail.faults?_eq_none ht.2]
    rfl

end

mutual

/-- A value that the encoder accepts has its own type, and that type can be declared. -/
theorem Value.hasType_of_fault? : ∀ {v : Value},
    v.fault? = none → HasType v v.ty ∧ v.ty.fault? = none
  | .address a, _ => ⟨.address a, rfl⟩
  | .uint _ _, h =>
    have hw := Value.uintFault?_eq_none.mp h
    ⟨.uint hw.2, hw.1⟩
  | .int _ _, h =>
    have hw := Value.intFault?_eq_none.mp h
    have hfits := Value.intFits_iff.mp hw.2
    ⟨.int (Ty.pos_of_widthFault? hw.1) hfits.1 hfits.2, hw.1⟩
  | .bool b, _ => ⟨.bool b, rfl⟩
  | .bytes octets, _ => ⟨.bytes octets, rfl⟩
  | .fixedBytes octets, h => ⟨.fixedBytes octets, Value.fixedBytes_fault?_eq_none.mp h⟩
  | .string s, _ => ⟨.string s, rfl⟩
  | .array elem items, h => by
    rw [Value.fault?, Option.or_eq_none_iff, Option.map_eq_none_iff,
      Value.itemsFault?_eq_none] at h
    obtain ⟨helem, htys, hitems⟩ := h
    have members := (Value.haveTypes_of_faults? hitems).1
    rw [htys] at members
    exact ⟨.array members, helem⟩
  | .fixedArray elem items, h => by
    by_cases hempty : items.isEmpty
    · simp [Value.fault?, hempty] at h
    · rw [Value.fault?, if_neg hempty, Option.or_eq_none_iff, Option.map_eq_none_iff,
        Value.itemsFault?_eq_none] at h
      obtain ⟨helem, htys, hitems⟩ := h
      have members := (Value.haveTypes_of_faults? hitems).1
      rw [htys] at members
      rw [List.isEmpty_iff_length_eq_zero] at hempty
      exact ⟨.fixedArray members, Ty.fixedArray_fault?_eq_none.mpr ⟨hempty, helem⟩⟩
  | .tuple items, h =>
    have members := @Value.haveTypes_of_faults? items h
    ⟨.tuple members.1, members.2⟩

/-- Values that the encoder accepts have their own types, and those types can be declared. -/
theorem Value.haveTypes_of_faults? : ∀ {values : List Value},
    Value.faults? values = none →
      HaveTypes values (Value.tys values) ∧ Ty.faults? (Value.tys values) = none
  | [], _ => ⟨.nil, rfl⟩
  | v :: rest, h => by
    rw [Value.faults?, Option.or_eq_none_iff] at h
    have head := Value.hasType_of_fault? h.1
    have tail := Value.haveTypes_of_faults? h.2
    exact ⟨.cons head.1 tail.1, by rw [Value.tys, Ty.faults?, head.2, tail.2]; rfl⟩

end

/-- Encoding succeeds exactly for accepted values, and then lays them out. -/
theorem encode_eq_ok_iff {values : List Value} {octets : Bytes} :
    encode values = .ok octets ↔
      Value.faults? values = none ∧ octets = layOut (Value.parts values) := by
  rw [encode]
  cases Value.faults? values with
  | some fault => simp
  | none => simp [eq_comm]

/-- Encoding succeeds exactly for typed values of types that can be declared. -/
theorem encode_eq_ok {values : List Value} {octets : Bytes} :
    encode values = .ok octets ↔
      HaveTypes values (Value.tys values) ∧ Ty.faults? (Value.tys values) = none ∧
        octets = layOut (Value.parts values) := by
  constructor
  · intro h
    cases hfaults : Value.faults? values with
    | some fault => simp [encode, hfaults] at h
    | none =>
      obtain ⟨htypes, hdeclared⟩ := Value.haveTypes_of_faults? hfaults
      simp only [encode, hfaults, Except.ok.injEq] at h
      exact ⟨htypes, hdeclared, h.symm⟩
  · rintro ⟨htypes, hdeclared, rfl⟩
    rw [encode, htypes.faults?_eq_none hdeclared]

/-- Arguments have their declared types exactly when none of them is at fault, as many as there are
of both. -/
theorem argumentFault?_eq_none {types : List Ty} {values : List Value}
    (hlength : types.length = values.length) (index : Nat) :
    argumentFault? index types values = none ↔ Value.tys values = types := by
  induction types generalizing values index with
  | nil =>
    cases values with
    | nil => simp [argumentFault?, Value.tys]
    | cons v rest => cases hlength
  | cons t types ih =>
    cases values with
    | nil => cases hlength
    | cons v rest =>
      have hrest := ih (Nat.succ.inj hlength) (index + 1)
      by_cases hty : v.ty = t
      · rw [argumentFault?, if_pos hty, hrest, Value.tys, hty, List.cons.injEq]
        simp only [true_and]
      · simp [argumentFault?, hty, Value.tys]

/-- Arguments are encoded for declared types exactly when these are the types of the values, and
then as the values are without them. -/
theorem encodeParams_eq_ok {types : List Ty} {values : List Value} {octets : Bytes} :
    encodeParams types values = .ok octets ↔
      Value.tys values = types ∧ encode values = .ok octets := by
  by_cases hlength : types.length = values.length
  · rw [encodeParams, if_neg (not_not_intro hlength), ← argumentFault?_eq_none hlength 0]
    cases argumentFault? 0 types values with
    | some fault => simp
    | none => simp
  · have htys : Value.tys values ≠ types := by
      rintro rfl
      exact hlength (Value.length_tys values)
    simp [encodeParams, hlength, htys]

end ContractToolkit.Abi
