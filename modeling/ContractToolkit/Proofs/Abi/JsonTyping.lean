import ContractToolkit.Proofs.Abi.Nodes

/-!
# Values from JSON are typed

JSON is read by a type, and what is read is a value of that type with uniform
sequences: numbers of elements and components and lengths of byte strings are
tested when the value is read. Only the range of integers is left to the
encoder, which therefore refuses such a value for nothing but the first integer
that its width does not hold. In turn every uniform value is the value that its
own JSON form is read as, and no other value is.
-/

namespace ContractToolkit.Abi

open Outcome

namespace Value

/-- Members that are read from items by one type are of that type when each item is read so. -/
theorem shaped_of_mapM {elem : Ty} {items : List Json} {values : List Value}
    (hread : ∀ json v, ofJson elem json = .ok v → Shaped v elem)
    (h : items.mapM (fun item => ofJson elem item) = .ok values) : ∀ v ∈ values, Shaped v elem := by
  obtain ⟨members, -, rfl, hmembers⟩ := mapM_eq_ok.mp h
  exact List.forall_mem_map.mpr fun m hm => hread m.1 m.2 (hmembers m hm)

end Value

mutual

/-- What is read from JSON by a type is of that type. -/
theorem Value.shaped_of_ofJson : ∀ (t : Ty) {json : Json} {v : Value},
    Value.ofJson t json = .ok v → Shaped v t
  | .address, json, v, h => by
    rw [Value.ofJson] at h
    obtain ⟨s, -, h⟩ := bind_eq_ok.mp h
    split at h
    · cases h
      exact .address _
    · cases h
  | .uint bits, json, v, h => by
    rw [Value.ofJson.eq_def] at h
    dsimp only at h
    split at h
    · split at h
      · cases h
        exact .uint _ _
      · cases h
    · obtain ⟨w, -, h⟩ := bind_eq_ok.mp h
      cases pure_eq_ok.mp h
      exact .uint _ _
    · cases h
  | .int bits, json, v, h => by
    rw [Value.ofJson.eq_def] at h
    dsimp only at h
    split at h
    · split at h
      · cases h
        exact .int _ _
      · cases h
    · obtain ⟨w, -, h⟩ := bind_eq_ok.mp h
      cases pure_eq_ok.mp h
      exact .int _ _
    · cases h
  | .bool, json, v, h => by
    rw [Value.ofJson.eq_def] at h
    dsimp only at h
    split at h
    · cases h
      exact .bool _
    · cases h
  | .string, json, v, h => by
    rw [Value.ofJson] at h
    obtain ⟨s, -, h⟩ := bind_eq_ok.mp h
    cases pure_eq_ok.mp h
    exact .string s
  | .bytes, json, v, h => by
    rw [Value.ofJson] at h
    obtain ⟨s, -, h⟩ := bind_eq_ok.mp h
    obtain ⟨octets, -, h⟩ := bind_eq_ok.mp h
    cases pure_eq_ok.mp h
    exact .bytes octets
  | .fixedBytes size, json, v, h => by
    rw [Value.ofJson] at h
    obtain ⟨s, -, h⟩ := bind_eq_ok.mp h
    obtain ⟨octets, -, h⟩ := bind_eq_ok.mp h
    split at h
    · rename_i hlength
      cases pure_eq_ok.mp h
      exact hlength ▸ .fixedBytes octets
    · cases h
  | .array elem, json, v, h => by
    rw [Value.ofJson] at h
    obtain ⟨items, -, h⟩ := bind_eq_ok.mp h
    obtain ⟨values, hvalues, h⟩ := bind_eq_ok.mp h
    cases pure_eq_ok.mp h
    exact .array (Value.shaped_of_mapM (fun _ _ => Value.shaped_of_ofJson elem) hvalues)
  | .fixedArray elem length, json, v, h => by
    rw [Value.ofJson] at h
    obtain ⟨items, -, h⟩ := bind_eq_ok.mp h
    split at h
    · rename_i hlength
      obtain ⟨values, hvalues, h⟩ := bind_eq_ok.mp h
      cases pure_eq_ok.mp h
      have hcount : values.length = length := by
        obtain ⟨members, hitems, hresults, -⟩ := mapM_eq_ok.mp hvalues
        rw [hresults, List.length_map, ← hlength, hitems, List.length_map]
      have hmembers := Value.shaped_of_mapM (fun _ _ => Value.shaped_of_ofJson elem) hvalues
      exact hcount ▸ .fixedArray hmembers
    · cases h
  | .tuple fields, json, v, h => by
    rw [Value.ofJson] at h
    obtain ⟨items, -, h⟩ := bind_eq_ok.mp h
    split at h
    · rename_i hlength
      obtain ⟨values, hvalues, h⟩ := bind_eq_ok.mp h
      cases pure_eq_ok.mp h
      obtain ⟨htypes, hmembers⟩ := Value.shaped_of_ofJsons fields hlength hvalues
      exact htypes ▸ .tuple hmembers
    · cases h

/-- Components that are read by as many types have these types. -/
theorem Value.shaped_of_ofJsons : ∀ (types : List Ty) {items : List Json} {values : List Value},
    items.length = types.length → Value.ofJsons types items = .ok values →
      Value.tys values = types ∧ ∀ v ∈ values, Shaped v v.ty
  | [], items, values, hlength, h => by
    rw [List.length_eq_zero_iff.mp hlength, Value.ofJsons.eq_def] at h
    cases h
    exact ⟨rfl, fun _ hv => absurd hv List.not_mem_nil⟩
  | t :: types, [], values, hlength, h => by cases hlength
  | t :: types, json :: items, values, hlength, h => by
    rw [Value.ofJsons] at h
    obtain ⟨v, hv, h⟩ := bind_eq_ok.mp h
    obtain ⟨rest, hrest, h⟩ := bind_eq_ok.mp h
    cases pure_eq_ok.mp h
    have hfirst := Value.shaped_of_ofJson t hv
    obtain ⟨htypes, hmembers⟩ :=
      Value.shaped_of_ofJsons types (Nat.succ.inj hlength) hrest
    refine ⟨?_, List.forall_mem_cons.mpr ⟨hfirst.ty_eq.symm ▸ hfirst, hmembers⟩⟩
    rw [Value.tys, hfirst.ty_eq, htypes]

end

namespace Value

/-- Why an integer is not in the range of its width. -/
def rangeFault? : Value → Option EncodeFault
  | uint w bits => if w.toNat < 2 ^ bits then none else some (.uintRange w bits)
  | int w bits =>
    if -(2 : Int) ^ (bits - 1) ≤ w.toInt ∧ w.toInt < (2 : Int) ^ (bits - 1) then none
    else some (.intRange w bits)
  | _ => none

/-- An unsigned integer of a width that can be declared is refused for its range alone. -/
theorem uintFault?_eq_rangeFault? {w : Word} {bits : Nat} (h : Ty.widthFault? bits = none) :
    uintFault? w bits = (uint w bits).rangeFault? := by
  have hwidth : ¬ (Ty.widthFault? bits).isSome = true := by simp [h]
  by_cases hrange : w.toNat < 2 ^ bits
  · rw [uintFault?_eq_none.mpr ⟨h, hrange⟩, rangeFault?, if_pos hrange]
  · rw [uintFault?, Nat.pow_eq, if_neg hwidth, if_pos (Nat.not_lt.mp hrange), rangeFault?,
      if_neg hrange]

/-- A signed integer of a width that can be declared is refused for its range alone. -/
theorem intFault?_eq_rangeFault? {w : Word} {bits : Nat} (h : Ty.widthFault? bits = none) :
    intFault? w bits = (int w bits).rangeFault? := by
  have hwidth : ¬ (Ty.widthFault? bits).isSome = true := by simp [h]
  by_cases hrange : intFits w bits = true
  · rw [intFault?_eq_none.mpr ⟨h, hrange⟩, rangeFault?, if_pos (intFits_iff.mp hrange)]
  · rw [intFault?, if_neg hwidth, if_neg hrange, rangeFault?, if_neg (mt intFits_iff.mpr hrange)]

/-- Members of the declared type are refused as values are. -/
theorem itemsFault?_eq_faults? {elem : Ty} {items : List Value} (h : ∀ item ∈ items, item.ty = elem) :
    itemsFault? elem items = faults? items := by
  induction items with
  | nil => rfl
  | cons item rest ih =>
    obtain ⟨hitem, hrest⟩ := List.forall_mem_cons.mp h
    rw [itemsFault?, if_pos hitem, ih hrest, faults?]

/-- Values that are refused for the ranges of their integers alone are refused for the first of
these. -/
theorem faults?_eq_findSome? {values : List Value}
    (h : ∀ v ∈ values, v.fault? = v.nodes.findSome? rangeFault?) :
    faults? values = (nodesOf values).findSome? rangeFault? := by
  induction values with
  | nil => rfl
  | cons v rest ih =>
    obtain ⟨hv, hrest⟩ := List.forall_mem_cons.mp h
    rw [faults?, hv, ih hrest, nodesOf, List.findSome?_append]

end Value

/-- A value of a type that can be declared is refused for the first integer out of range, and for
nothing else. -/
theorem Shaped.fault?_eq {v : Value} {t : Ty} (h : Shaped v t) (hdeclared : t.fault? = none) :
    v.fault? = v.nodes.findSome? Value.rangeFault? := by
  have hsequence {items : List Value} {elem : Ty} (helem : elem.fault? = none)
      (members : ∀ item ∈ items, Shaped item elem)
      (ih : ∀ item ∈ items, elem.fault? = none →
        item.fault? = item.nodes.findSome? Value.rangeFault?) :
      (elem.fault?.map EncodeFault.elementType).or (Value.itemsFault? elem items) =
        (Value.nodesOf items).findSome? Value.rangeFault? := by
    rw [helem, Value.itemsFault?_eq_faults? fun item hitem => (members item hitem).ty_eq,
      Value.faults?_eq_findSome? fun item hitem => ih item hitem helem]
    rfl
  induction h with
  | uint w bits =>
    have hrange := Value.uintFault?_eq_rangeFault? (w := w) hdeclared
    rw [Value.nodes_of_members rfl, List.findSome?_singleton]
    exact hrange
  | int w bits =>
    have hrange := Value.intFault?_eq_rangeFault? (w := w) hdeclared
    rw [Value.nodes_of_members rfl, List.findSome?_singleton]
    exact hrange
  | fixedBytes octets => exact Value.fixedBytes_fault?_eq_none.mpr hdeclared
  | @array elem items members ih => exact hsequence hdeclared members ih
  | @fixedArray elem items members ih =>
    obtain ⟨hlength, helem⟩ := Ty.fixedArray_fault?_eq_none.mp hdeclared
    rw [Value.fault?, if_neg (mt List.isEmpty_iff_length_eq_zero.mp hlength)]
    exact hsequence helem members ih
  | @tuple items members ih =>
    have hitems : ∀ item ∈ items, item.ty.fault? = none := by
      intro item hitem
      have htypes := Ty.faults?_eq_none.mp hdeclared
      exact htypes item.ty (Value.tys_eq_map items ▸ List.mem_map_of_mem hitem)
    exact Value.faults?_eq_findSome? fun item hitem => ih item hitem (hitems item hitem)
  | _ => rfl

/-- A value that is read from JSON by a type has that type, and every sequence in it, at any depth,
has members of the type that it declares. When the type can be declared, the value is encoded for it
unless an integer somewhere in it is out of the range of its width, and the first such integer is
what it is refused for. -/
theorem ofJson_typed {t : Ty} {json : Json} {v : Value} (h : Value.ofJson t json = .ok v) :
    v.ty = t ∧ v.Uniform ∧
      (t.fault? = none →
        encodeParams [t] [v] =
          match v.nodes.findSome? Value.rangeFault? with
          | some fault => .error (.encode fault)
          | none => .ok (layOut (Value.parts [v]))) := by
  have hshaped := Value.shaped_of_ofJson t h
  obtain ⟨htype, huniform⟩ := shaped_iff.mp hshaped
  refine ⟨htype, huniform, fun hdeclared => ?_⟩
  have hargument : argumentFault? 0 [t] [v] = none := by
    rw [argumentFault?_eq_none rfl, Value.tys, htype, Value.tys]
  have hfaults : Value.faults? [v] = v.nodes.findSome? Value.rangeFault? := by
    rw [Value.faults?, hshaped.fault?_eq hdeclared, Value.faults?, Option.or_none]
  have hlength : ¬ [t].length ≠ [v].length := not_not_intro rfl
  rw [encodeParams, if_neg hlength, hargument]
  dsimp only
  rewrite [encode, hfaults]
  rfl

/-- Three integers of one width in an array in a tuple, of which the last one does not fit, beside
octets whose number is right. -/
theorem ofJson_typed_wide :
    let t : Ty := .tuple [.array (.int 8), .fixedBytes 2]
    let json : Json := .array [.array [.integer (-5), .string "-0x80", .string " 200 "],
      .string "0xbeef"]
    let v : Value := .tuple [.array (.int 8) [.int (-5) 8, .int (-128) 8, .int 200 8],
      .fixedBytes [0xbe, 0xef]]
    Value.ofJson t json = .ok v ∧ v.ty = t ∧ v.Uniform ∧ t.fault? = none ∧
      encodeParams [t] [v] = .error (.encode (.intRange 200 8)) := by
  intro t json v
  have hread : Value.ofJson t json = .ok v := by rfl
  have hdeclared : t.fault? = none := rfl
  obtain ⟨htype, huniform, hencode⟩ := ofJson_typed hread
  exact ⟨hread, htype, huniform, hdeclared, (hencode hdeclared).trans rfl⟩

/-- A value is read back from its JSON form by its type exactly when every sequence in it, at any
depth, has members of the type that it declares: whatever its address, octets or text, and whether
or not its integers are in the range of their widths. -/
theorem ofJson_toJson_iff (v : Value) : Value.ofJson v.ty v.toJson = .ok v ↔ v.Uniform :=
  ⟨fun h => (Value.shaped_of_ofJson v.ty h).uniform, fun h => h.shaped.ofJson_toJson⟩

end ContractToolkit.Abi
