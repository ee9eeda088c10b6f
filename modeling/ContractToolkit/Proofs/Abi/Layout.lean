import ContractToolkit.Proofs.Abi.Typing

/-!
# Sizes of layouts

The encoder lays out values by the lengths of their octets, and the decoder
steps over heads by the sizes of their types. Both agree for typed values whose
octets are fewer than a size can say, so every head and every tail begins where
the decoder looks for it. Products and sums of static sizes are all parts of one
such length, which is why none of them leaves the range.
-/

namespace ContractToolkit.Abi

/-- The octets of sizes in a row. -/
def total (sizes : List Nat) : Nat := sizes.foldr (· + ·) 0

/-- The first size counts with the others. -/
theorem total_cons (size : Nat) (sizes : List Nat) : total (size :: sizes) = size + total sizes :=
  rfl

namespace Ty

/-- Whether values of a type take a known number of octets among the heads, and at least one. -/
def takesRoom (t : Ty) : Bool :=
  match t.headSize with
  | some size => size != 0
  | none => false

mutual

/-- Whether the elements of all sequences inside a type take room, at any depth. -/
def roomy : Ty → Bool
  | array elem => elem.takesRoom && roomy elem
  | fixedArray elem _ => elem.takesRoom && roomy elem
  | tuple fields => allRoomy fields
  | _ => true

/-- Whether the elements of all sequences inside the types of a list take room. -/
def allRoomy : List Ty → Bool
  | [] => true
  | t :: rest => roomy t && allRoomy rest

end

end Ty

namespace Value

mutual

/-- Whether the elements of all sequences inside a value take room, at any depth. An empty sequence
says nothing of what is inside its elements. -/
def roomy : Value → Bool
  | array elem items => elem.takesRoom && allRoomy items
  | fixedArray elem items => elem.takesRoom && allRoomy items
  | tuple items => allRoomy items
  | _ => true

/-- Whether the elements of all sequences inside the values of a list take room. -/
def allRoomy : List Value → Bool
  | [] => true
  | v :: rest => roomy v && allRoomy rest

end

/-- Sequences have elements that take room in all values exactly when they do in each of them. -/
theorem allRoomy_iff {values : List Value} :
    allRoomy values = true ↔ ∀ v ∈ values, v.roomy = true := by
  induction values with
  | nil => simp [allRoomy]
  | cons v rest ih => simp [allRoomy, ih]

end Value

namespace Ty

/-- A type whose values take room has a size in the head that is not zero. -/
theorem takesRoom_iff {t : Ty} :
    t.takesRoom = true ↔ ∃ size, t.headSize = some size ∧ 0 < size := by
  rw [takesRoom]
  cases t.headSize with
  | none => simp
  | some size => simp [Nat.pos_iff_ne_zero]

/-- Elements take room in every copy of their type. -/
theorem allRoomy_replicate {elem : Ty} (h : elem.roomy = true) (count : Nat) :
    allRoomy (.replicate count elem) = true := by
  induction count with
  | zero => rfl
  | succ count ih => rw [List.replicate_succ, allRoomy, h, ih]; rfl

/-- Copies of a static type are static. -/
theorem anyDynamic_replicate {elem : Ty} (h : elem.isDynamic = false) (count : Nat) :
    anyDynamic (.replicate count elem) = false := by
  induction count with
  | zero => rfl
  | succ count ih => rw [List.replicate_succ, anyDynamic, h, ih]; rfl

/-- Copies of a static type take as many times its size behind a start, if that is a size. -/
theorem staticSizes_replicate {elem : Ty} {size : Nat} (hsize : elem.staticSize = some size)
    {start : Nat} (hstart : start < Machine.sizeLimit) (count : Nat) :
    staticSizes start (.replicate count elem) = Machine.add? start (count * size) := by
  induction count generalizing start with
  | zero =>
    rw [List.replicate_zero, staticSizes, Nat.zero_mul, Machine.add?, Nat.add_zero, if_pos hstart]
  | succ count ih =>
    rw [List.replicate_succ, staticSizes, hsize, Option.bind_some, Nat.succ_mul]
    by_cases hnext : start + size < Machine.sizeLimit
    · rw [Machine.add?, if_pos hnext, Option.bind_some, ih hnext, Machine.add?, Machine.add?,
        Nat.add_assoc, Nat.add_comm size]
    · rw [Machine.add?, if_neg hnext, Option.bind_none, Machine.add?, if_neg (by omega)]

/-- An elementary value stands in its head, which takes one word. -/
theorem headSize_elementary {t : Ty} (elementary : t.isHashed = false) :
    t.isDynamic = false ∧ t.headSize = some wordSize := by
  cases t with
  | address => exact ⟨rfl, rfl⟩
  | uint bits => exact ⟨rfl, rfl⟩
  | int bits => exact ⟨rfl, rfl⟩
  | bool => exact ⟨rfl, rfl⟩
  | fixedBytes size => exact ⟨rfl, rfl⟩
  | _ => cases elementary

/-- A static sequence of a declared length takes what its elements take in a row. -/
theorem staticSize_fixedArray {elem : Ty} {length : Nat} (hlength : length ≠ 0) :
    (fixedArray elem length).staticSize = staticSizes 0 (.replicate length elem) := by
  rw [staticSize]
  cases hsize : elem.staticSize with
  | none =>
    cases length with
    | zero => exact absurd rfl hlength
    | succ count => rw [List.replicate_succ, staticSizes, hsize]; rfl
  | some size =>
    rw [Option.bind_some, staticSizes_replicate hsize (by decide), Machine.mul?, Machine.add?,
      Nat.zero_add, Nat.mul_comm]

end Ty

namespace Value

mutual

/-- A value is encoded behind an offset exactly when its type says so. -/
theorem isDynamic_ty : ∀ v : Value, v.ty.isDynamic = v.isDynamic
  | .address _ => rfl
  | .uint _ _ => rfl
  | .int _ _ => rfl
  | .bool _ => rfl
  | .bytes _ => rfl
  | .fixedBytes _ => rfl
  | .string _ => rfl
  | .array _ _ => rfl
  | .fixedArray _ _ => rfl
  | .tuple items => anyDynamic_tys items

/-- A value of a list is dynamic exactly when its type is. -/
theorem anyDynamic_tys : ∀ values : List Value, Ty.anyDynamic (tys values) = anyDynamic values
  | [] => rfl
  | v :: rest => by rw [tys, Ty.anyDynamic, anyDynamic, isDynamic_ty v, anyDynamic_tys rest]

end

/-- The encoding of a value in a sequence. -/
def part (v : Value) : Part := ⟨v.isDynamic, v.octets⟩

/-- The parts of values begin with that of the first value. -/
theorem parts_cons (v : Value) (rest : List Value) : parts (v :: rest) = v.part :: parts rest := rfl

end Value

/-- Octets that a part takes in the tail. -/
def Part.tail (p : Part) : Bytes := if p.dynamic then p.octets else []

/-- The tail begins with what its first part takes in it. -/
theorem tails_cons (p : Part) (rest : List Part) : tails (p :: rest) = p.tail ++ tails rest :=
  List.flatMap_cons

/-- The heads of parts take what the parts say. -/
theorem length_heads (offset : Nat) (parts : List Part) :
    (heads offset parts).length = headLength parts := by
  induction parts generalizing offset with
  | nil => rfl
  | cons p rest ih =>
    have hcons : headLength (p :: rest) = p.headLength + headLength rest := rfl
    by_cases hdynamic : p.dynamic
    · rw [heads, if_pos hdynamic, List.length_append, ih, hcons, Part.headLength, if_pos hdynamic,
        sizeWord, Bytes.length_ofNat]
    · rw [heads, if_neg hdynamic, List.length_append, ih, hcons, Part.headLength, if_neg hdynamic]

/-- A layout is as long as its heads and its tail. -/
theorem length_layOut (parts : List Part) :
    (layOut parts).length = headLength parts + (tails parts).length := by
  rw [layOut, List.length_append, length_heads]

/-- A layout is longer by what its first part takes in the head and in the tail. -/
theorem length_layOut_cons (p : Part) (rest : List Part) :
    (layOut (p :: rest)).length = p.headLength + p.tail.length + (layOut rest).length := by
  have hcons : headLength (p :: rest) = p.headLength + headLength rest := rfl
  rw [length_layOut, length_layOut, tails_cons, List.length_append, hcons]
  omega

/-- What leads to a value of a type on its own: the offset of a dynamic one, and nothing to a static
one, which stands there itself. -/
def Ty.lead (t : Ty) : Bytes := if t.isDynamic then sizeWord wordSize else []

/-- One value is laid out behind what leads to it. -/
theorem layOut_single (v : Value) : layOut (Value.parts [v]) = v.ty.lead ++ v.octets := by
  rw [Ty.lead, v.isDynamic_ty]
  cases hdynamic : v.isDynamic with
  | true => simp [layOut, Value.parts, heads, tails, headLength, Part.headLength, hdynamic]
  | false => simp [layOut, Value.parts, heads, tails, hdynamic]

/-- A part takes its octets in the head or in the tail. -/
theorem Part.length_octets_le (p : Part) : p.octets.length ≤ p.headLength + p.tail.length := by
  rw [headLength, tail]
  by_cases hdynamic : p.dynamic
  · rw [if_pos hdynamic, if_pos hdynamic]
    omega
  · rw [if_neg hdynamic, if_neg hdynamic]
    omega

/-- A static part takes its octets in the head. -/
theorem Part.length_octets_of_static (p : Part) (h : p.dynamic = false) :
    p.headLength + p.tail.length = p.octets.length := by
  rw [headLength, tail, h, if_neg Bool.false_ne_true, if_neg Bool.false_ne_true]
  rfl

/-- An elementary value of a type that can be declared takes one word. -/
theorem HasType.length_octets {v : Value} {t : Ty} (h : HasType v t)
    (elementary : t.isHashed = false) (hdeclared : t.fault? = none) :
    v.octets.length = wordSize := by
  cases h with
  | address a => exact Bytes.length_ofNat _ _
  | uint _ => exact Word.length_bytes _
  | int _ _ _ => exact Word.length_bytes _
  | bool b => exact Bytes.length_ofNat _ _
  | fixedBytes octets =>
    have hsize := (Ty.fixedBytes_fault?_eq_none.mp hdeclared).2
    rw [Value.octets, padTo, List.length_append, Bytes.zeros, List.length_replicate]
    omega
  | _ => cases elementary

/-- A typed value stands behind an offset exactly when its type says so. -/
theorem HasType.dynamic_part {v : Value} {t : Ty} (h : HasType v t) :
    v.part.dynamic = t.isDynamic := by
  rw [← h.ty_eq, v.isDynamic_ty]
  rfl

/-- The size of an elementary type is that of its values. -/
theorem HasType.staticSize_elementary {v : Value} {t : Ty} (h : HasType v t)
    (elementary : t.isHashed = false) (hdeclared : t.fault? = none) (size : Nat) :
    t.staticSize = some size ↔ size = v.octets.length ∧ v.octets.length < Machine.sizeLimit := by
  have hword : t.staticSize = some wordSize := by
    cases h with
    | address _ => rfl
    | uint _ => rfl
    | int _ _ _ => rfl
    | bool _ => rfl
    | fixedBytes _ => rfl
    | _ => cases elementary
  have hlimit : wordSize < Machine.sizeLimit := by decide
  rw [h.length_octets elementary hdeclared, hword, Option.some.injEq, eq_comm]
  exact (and_iff_left hlimit).symm

mutual

/-- The elements of all sequences inside a value take room if those inside its type do. -/
theorem HasType.roomy {v : Value} {t : Ty} : HasType v t → t.roomy = true → v.roomy = true
  | .address _, _ => rfl
  | .uint _, _ => rfl
  | .int _ _ _, _ => rfl
  | .bool _, _ => rfl
  | .bytes _, _ => rfl
  | .fixedBytes _, _ => rfl
  | .string _, _ => rfl
  | .array members, h => by
    rw [Ty.roomy, Bool.and_eq_true] at h
    rw [Value.roomy, h.1, members.allRoomy (Ty.allRoomy_replicate h.2 _)]
    rfl
  | .fixedArray members, h => by
    rw [Ty.roomy, Bool.and_eq_true] at h
    rw [Value.roomy, h.1, members.allRoomy (Ty.allRoomy_replicate h.2 _)]
    rfl
  | .tuple members, h => members.allRoomy h

/-- The elements of all sequences inside values take room if those inside their types do. -/
theorem HaveTypes.allRoomy {values : List Value} {types : List Ty} : HaveTypes values types →
    Ty.allRoomy types = true → Value.allRoomy values = true
  | .nil, _ => rfl
  | .cons head tail, h => by
    rw [Ty.allRoomy, Bool.and_eq_true] at h
    rw [Value.allRoomy, head.roomy h.1, tail.allRoomy h.2]
    rfl

end

mutual

/-- The size of a static type that can be declared is what its values take, as long as that is a
size; no product or sum of sizes on the way leaves the range before. -/
theorem HasType.staticSize_eq_some {v : Value} {t : Ty} : HasType v t → t.isDynamic = false →
    t.fault? = none → (size : Nat) →
      (t.staticSize = some size ↔ size = v.octets.length ∧ v.octets.length < Machine.sizeLimit)
  | .address a => fun _ hdeclared => (HasType.address a).staticSize_elementary rfl hdeclared
  | .uint high => fun _ hdeclared => (HasType.uint high).staticSize_elementary rfl hdeclared
  | .int pos low high => fun _ hdeclared =>
    (HasType.int pos low high).staticSize_elementary rfl hdeclared
  | .bool b => fun _ hdeclared => (HasType.bool b).staticSize_elementary rfl hdeclared
  | .fixedBytes octets => fun _ hdeclared =>
    (HasType.fixedBytes octets).staticSize_elementary rfl hdeclared
  | .bytes _ => fun hstatic => by cases hstatic
  | .string _ => fun hstatic => by cases hstatic
  | .array _ => fun hstatic => by cases hstatic
  | @HasType.fixedArray elem items members => fun hstatic hdeclared size => by
    have helem : elem.isDynamic = false := hstatic
    obtain ⟨hlength, hfault⟩ := Ty.fixedArray_fault?_eq_none.mp hdeclared
    have hmembers := members.staticSizes_eq_some (Ty.anyDynamic_replicate helem _)
      (Ty.faults?_replicate hfault _) 0 (by decide) size
    rw [Nat.zero_add] at hmembers
    rw [Ty.staticSize_fixedArray hlength, Value.octets]
    exact hmembers
  | .tuple members => fun hstatic hdeclared size => by
    have hmembers := members.staticSizes_eq_some hstatic hdeclared 0 (by decide) size
    rw [Nat.zero_add] at hmembers
    rw [Value.octets]
    exact hmembers

/-- Static types in a row take behind a start what their values take, as long as that is a size. -/
theorem HaveTypes.staticSizes_eq_some {values : List Value} {types : List Ty} :
    HaveTypes values types → Ty.anyDynamic types = false → Ty.faults? types = none →
      (start : Nat) → start < Machine.sizeLimit → (total : Nat) →
        (Ty.staticSizes start types = some total ↔
          total = start + (layOut (Value.parts values)).length ∧
            start + (layOut (Value.parts values)).length < Machine.sizeLimit)
  | .nil => fun _ _ start hstart total => by
    rw [Ty.staticSizes, Option.some.injEq, eq_comm]
    exact (and_iff_left hstart).symm
  | @HaveTypes.cons v t values types head tail => fun hstatic hdeclared start _ total => by
    rw [Ty.anyDynamic, Bool.or_eq_false_iff] at hstatic
    rw [Ty.faults?, Option.or_eq_none_iff] at hdeclared
    have hpart := v.part.length_octets_of_static (head.dynamic_part.trans hstatic.1)
    have hoctets : v.part.octets = v.octets := rfl
    have hhead := head.staticSize_eq_some hstatic.1 hdeclared.1
    have htail := tail.staticSizes_eq_some hstatic.2 hdeclared.2
    rw [Value.parts_cons, length_layOut_cons, hpart, hoctets, Ty.staticSizes]
    simp only [Option.bind_eq_some_iff, Machine.add?_eq_some, hhead]
    constructor
    · rintro ⟨next, ⟨size, ⟨rfl, -⟩, rfl, hnext⟩, hrest⟩
      rw [htail _ hnext, Nat.add_assoc] at hrest
      exact hrest
    · rintro ⟨htotal, hlimit⟩
      refine ⟨_, ⟨_, ⟨rfl, by omega⟩, rfl, by omega⟩, ?_⟩
      rw [htail _ (by omega), Nat.add_assoc]
      exact ⟨htotal, hlimit⟩

end

/-- The size of a type in the head is what its values take there. -/
theorem HasType.headSize {v : Value} {t : Ty} (h : HasType v t) (hdeclared : t.fault? = none)
    (hlimit : v.octets.length < Machine.sizeLimit) : t.headSize = some v.part.headLength := by
  rw [Ty.headSize, Part.headLength, h.dynamic_part]
  by_cases ht : t.isDynamic
  · rw [if_pos ht, if_pos ht]
  · rw [if_neg ht, if_neg ht, h.staticSize_eq_some (Bool.eq_false_iff.mpr ht) hdeclared]
    exact ⟨rfl, hlimit⟩

/-- The heads of members of one type are as long as so many sizes of the type. -/
theorem HaveTypes.headLength_replicate {items : List Value} {elem : Ty} {size count : Nat}
    (h : HaveTypes items (.replicate count elem)) (hsize : elem.headSize = some size)
    (hdeclared : elem.fault? = none)
    (hlimit : (layOut (Value.parts items)).length < Machine.sizeLimit) :
    headLength (Value.parts items) = count * size := by
  induction items generalizing count with
  | nil =>
    have hcount : 0 = count := by simpa using h.length_eq
    rw [← hcount, Nat.zero_mul]
    rfl
  | cons v rest ih =>
    cases count with
    | zero => cases h
    | succ count =>
      cases h with
      | cons head tail =>
        rw [Value.parts_cons, length_layOut_cons] at hlimit
        have hoctets : v.octets.length ≤ _ := v.part.length_octets_le
        have hhead := head.headSize hdeclared (by omega)
        rw [hsize, Option.some.injEq] at hhead
        have htail := ih tail (by omega)
        rw [Nat.succ_mul, ← htail, hhead, Nat.add_comm]
        rfl

end ContractToolkit.Abi
