import ContractToolkit.Proofs.Abi.Layout
import ContractToolkit.Proofs.Abi.Soundness

/-!
# Static data has one encoding

Values of static types stand in their heads alone, one behind the other. Each of
them is read from the octets that the encoder writes for it and from no others,
and the head of the next one begins where these end. So data from which static
values are decoded begins with their encoding, and data that begins in another
way says other values or none.
-/

namespace ContractToolkit.Abi

variable {data : Bytes}

/-- Types of a list are static exactly when each of them is. -/
theorem Ty.anyDynamic_eq_false {types : List Ty} :
    anyDynamic types = false ↔ ∀ t ∈ types, t.isDynamic = false := by
  induction types with
  | nil => simp [anyDynamic]
  | cons t rest ih => simp [anyDynamic, ih]

/-- The parts of static values are static. -/
theorem HaveTypes.static_parts {values : List Value} {types : List Ty} :
    HaveTypes values types → Ty.anyDynamic types = false →
      ∀ p ∈ Value.parts values, p.dynamic = false
  | .nil, _ => fun _ hp => absurd hp List.not_mem_nil
  | .cons head tail, hstatic => by
    rw [Ty.anyDynamic, Bool.or_eq_false_iff] at hstatic
    rw [Value.parts_cons]
    exact List.forall_mem_cons.mpr
      ⟨head.dynamic_part.trans hstatic.1, tail.static_parts hstatic.2⟩

/-- The heads of static parts are their octets, wherever a tail would begin. -/
theorem heads_of_static {parts : List Part} (h : ∀ p ∈ parts, p.dynamic = false) (offset : Nat) :
    heads offset parts = parts.flatMap Part.octets := by
  induction parts with
  | nil => rfl
  | cons p rest ih =>
    obtain ⟨hp, hrest⟩ := List.forall_mem_cons.mp h
    rw [heads, hp, if_neg Bool.false_ne_true, ih hrest, List.flatMap_cons]

/-- Static parts leave nothing in the tail. -/
theorem tails_of_static {parts : List Part} (h : ∀ p ∈ parts, p.dynamic = false) :
    tails parts = [] := by
  refine List.flatMap_eq_nil_iff.mpr fun p hp => ?_
  rw [h p hp, if_neg Bool.false_ne_true]

/-- A layout of static parts is their octets one behind the other. -/
theorem layOut_of_static {parts : List Part} (h : ∀ p ∈ parts, p.dynamic = false) :
    layOut parts = parts.flatMap Part.octets := by
  rw [layOut, heads_of_static h, tails_of_static h, List.append_nil]

/-- A static value that is read takes as many octets as its type takes among the heads. -/
theorem Reads.headSize_eq {t : Ty} {position size : Nat} {v : Value} (h : Reads data t position v)
    (hstatic : t.isDynamic = false) (hdeclared : t.fault? = none) (hsize : t.headSize = some size) :
    size = v.octets.length := by
  rw [Ty.headSize, if_neg (Bool.eq_false_iff.mp hstatic)] at hsize
  exact ((h.hasType.staticSize_eq_some hstatic hdeclared size).mp hsize).1

mutual

/-- A static value that is read at a position inside data stands there as it is encoded. -/
theorem Reads.holdsAt {t : Ty} {position : Nat} {v : Value} :
    Reads data t position v → t.isDynamic = false → t.fault? = none → position ≤ data.length →
      data.HoldsAt position v.octets
  | .word _ _ stands => fun _ _ _ => (wordAt_eq_ok.mp stands).2.1
  | .bytes _ => fun hstatic => by cases hstatic
  | .string _ => fun hstatic => by cases hstatic
  | .array _ _ _ => fun hstatic => by cases hstatic
  | @Reads.fixedArray _ elem _ _ _ _ members => fun hstatic hdeclared hinside => by
    have helem : elem.isDynamic = false := hstatic
    have hfault := (Ty.fixedArray_fault?_eq_none.mp hdeclared).2
    rw [Value.octets]
    exact members.holdsAt (Ty.anyDynamic_replicate helem _) (Ty.faults?_replicate hfault _) hinside
  | .tuple members => fun hstatic hdeclared hinside => by
    rw [Value.octets]
    exact members.holdsAt hstatic hdeclared hinside

/-- Static values that are read from a head on stand there as they are laid out. -/
theorem ReadsAll.holdsAt {base head : Nat} {types : List Ty} {values : List Value} :
    ReadsAll data base head types values → Ty.anyDynamic types = false →
      Ty.faults? types = none → head ≤ data.length →
        data.HoldsAt head (layOut (Value.parts values))
  | .nil => fun _ _ hinside => .nil hinside
  | @ReadsAll.cons _ _ head place next t v types values stands value step rest =>
    fun hstatic hdeclared hinside => by
    have hparts := (ReadsAll.cons stands value step rest).haveTypes.static_parts hstatic
    rw [layOut_of_static hparts, Value.parts_cons, List.flatMap_cons]
    rw [Value.parts_cons] at hparts
    rw [← layOut_of_static (List.forall_mem_cons.mp hparts).2]
    rw [Ty.anyDynamic, Bool.or_eq_false_iff] at hstatic
    rw [Ty.faults?, Option.or_eq_none_iff] at hdeclared
    rw [placeOf_eq_ok, if_neg (Bool.eq_false_iff.mp hstatic.1)] at stands
    obtain ⟨size, hsize, rfl, -⟩ := nextHead_eq_ok.mp step
    have hlength := value.headSize_eq hstatic.1 hdeclared.1 hsize
    have hvalue := value.holdsAt hstatic.1 hdeclared.1 (stands ▸ hinside)
    rw [stands] at hvalue
    -- The octets of the value end inside the data, so the next head begins there.
    have hend := hvalue.le_length
    rw [hlength] at rest
    exact hvalue.append (rest.holdsAt hstatic.2 hdeclared.2 hend)

end

/-- Static values that are read take as many octets as their types take among the heads. -/
theorem ReadsAll.headSizes {base head : Nat} {types : List Ty} {values : List Value}
    (h : ReadsAll data base head types values) (hstatic : Ty.anyDynamic types = false)
    (hdeclared : Ty.faults? types = none) :
    types.map Ty.headSize = (values.map fun v => v.octets.length).map some := by
  induction types generalizing head values with
  | nil =>
    cases h
    rfl
  | cons t types ih =>
    cases h with
    | cons stands value step rest =>
      rw [Ty.anyDynamic, Bool.or_eq_false_iff] at hstatic
      rw [Ty.faults?, Option.or_eq_none_iff] at hdeclared
      obtain ⟨size, hsize, -, -⟩ := nextHead_eq_ok.mp step
      have hlength := value.headSize_eq hstatic.1 hdeclared.1 hsize
      rw [List.map_cons, List.map_cons, List.map_cons, ih rest hstatic.2 hdeclared.2, hsize,
        hlength]

/-- The octets of values in a row are as many as those of all of them. -/
theorem length_octets_parts (values : List Value) :
    ((Value.parts values).flatMap Part.octets).length =
      total (values.map fun v => v.octets.length) := by
  induction values with
  | nil => rfl
  | cons v rest ih =>
    rw [Value.parts_cons, List.flatMap_cons, List.length_append, ih, List.map_cons, total_cons]
    rfl

/-- Static values are encoded in one way: data from which they are decoded begins with their
encoding, which is as long as the sizes of their types in the head say, and all data from which the
same values are decoded begins alike. -/
theorem decode_static {types : List Ty} {values : List Value}
    (hstatic : ∀ t ∈ types, t.isDynamic = false) (h : decode types data = .ok values) :
    ∃ sizes : List Nat, types.map Ty.headSize = sizes.map some ∧ total sizes ≤ data.length ∧
      encode values = .ok (data.take (total sizes)) ∧
        ∀ other, decode types other = .ok values →
          other.take (total sizes) = data.take (total sizes) := by
  have hall := Ty.anyDynamic_eq_false.mpr hstatic
  obtain ⟨hdeclared, hreads⟩ := decode_eq_ok.mp h
  have typed := hreads.haveTypes
  have htys := typed.tys_eq
  have hlayout := layOut_of_static (typed.static_parts hall)
  have hlength := congrArg List.length hlayout
  rw [length_octets_parts] at hlength
  have hbegins (other : Bytes) (hother : decode types other = .ok values) :
      total (values.map fun v => v.octets.length) ≤ other.length ∧
        other.take (total (values.map fun v => v.octets.length)) = layOut (Value.parts values) := by
    have hstands := (decode_eq_ok.mp hother).2.holdsAt hall hdeclared (Nat.zero_le _)
    rw [Bytes.holdsAt_iff, hlength, Nat.zero_add, List.drop_zero] at hstands
    exact hstands
  obtain ⟨hinside, htake⟩ := hbegins data h
  refine ⟨_, hreads.headSizes hall hdeclared, hinside, ?_, fun other hother => ?_⟩
  · rw [encode_eq_ok, htys]
    exact ⟨typed, hdeclared, htake⟩
  · rw [(hbegins other hother).2, htake]

set_option maxRecDepth 4000 in
/-- Two tuples, each with a signed integer and a member that takes no octets, and a truth value; an
octet behind them is passed over. -/
theorem decode_static_tuples :
    let types : List Ty := [.fixedArray (.tuple [.int 8, .tuple []]) 2, .bool]
    let data := Word.bytes (-1) ++ sizeWord 7 ++ sizeWord 1 ++ [0xff]
    let values : List Value := [.fixedArray (.tuple [.int 8, .tuple []])
      [.tuple [.int (-1) 8, .tuple []], .tuple [.int 7 8, .tuple []]], .bool true]
    (∀ t ∈ types, t.isDynamic = false) ∧ decode types data = .ok values ∧
      ∃ sizes : List Nat, types.map Ty.headSize = sizes.map some ∧ total sizes ≤ data.length ∧
        encode values = .ok (data.take (total sizes)) ∧
          ∀ other, decode types other = .ok values →
            other.take (total sizes) = data.take (total sizes) := by
  intro types data values
  have hstatic : ∀ t ∈ types, t.isDynamic = false := Ty.anyDynamic_eq_false.mp rfl
  have hdecode : decode types data = .ok values := by rfl
  exact ⟨hstatic, hdecode, decode_static hstatic hdecode⟩

end ContractToolkit.Abi
