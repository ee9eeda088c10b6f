import ContractToolkit.Proofs.Abi.JsonForm

/-!
# Everything in a value

A value holds itself, its members, their members, and so on. What is said of
"every sequence in a value" or of "every integer in it" is said of these nodes.
A value is uniform when every sequence in it has members of the type that it
declares; a value is of a type exactly when that is its type and it is uniform.
-/

namespace ContractToolkit.Abi

namespace Value

mutual

/-- A value and everything in it, at any depth, from the outside in and from left to right. -/
def nodes : Value → List Value
  | array elem items => array elem items :: nodesOf items
  | fixedArray elem items => fixedArray elem items :: nodesOf items
  | tuple items => tuple items :: nodesOf items
  | v => [v]

/-- Everything in values. -/
def nodesOf : List Value → List Value
  | [] => []
  | v :: rest => nodes v ++ nodesOf rest

end

/-- The nodes of values one after another. -/
theorem nodesOf_eq_flatMap (values : List Value) : nodesOf values = values.flatMap nodes := by
  induction values with
  | nil => rfl
  | cons v rest ih => rw [nodesOf, List.flatMap_cons, ih]

/-- The values that a value is made of directly. -/
def members (v : Value) : List Value := v.members?.getD []

/-- The nodes of a value are the value itself and those of its members. -/
theorem nodes_eq (v : Value) : v.nodes = v :: v.members.flatMap nodes := by
  cases v with
  | array elem items => rw [nodes, nodesOf_eq_flatMap]; rfl
  | fixedArray elem items => rw [nodes, nodesOf_eq_flatMap]; rfl
  | tuple items => rw [nodes, nodesOf_eq_flatMap]; rfl
  | _ => rfl

/-- A value without members is its only node. -/
theorem nodes_of_members {v : Value} (h : v.members = []) : v.nodes = [v] := by
  rw [nodes_eq, h, List.flatMap_nil]

mutual

/-- What holds of a value and passes on from every value to its members holds of everything in it. -/
theorem forall_nodes {P : Value → Prop} (step : ∀ v, P v → ∀ item ∈ v.members, P item) :
    ∀ v : Value, P v → ∀ node ∈ v.nodes, P node
  | array elem items, h =>
    List.forall_mem_cons.mpr ⟨h, forall_nodesOf step items (step (array elem items) h)⟩
  | fixedArray elem items, h =>
    List.forall_mem_cons.mpr ⟨h, forall_nodesOf step items (step (fixedArray elem items) h)⟩
  | tuple items, h => List.forall_mem_cons.mpr ⟨h, forall_nodesOf step items (step (tuple items) h)⟩
  | address _, h => List.forall_mem_singleton.mpr h
  | uint _ _, h => List.forall_mem_singleton.mpr h
  | int _ _, h => List.forall_mem_singleton.mpr h
  | bool _, h => List.forall_mem_singleton.mpr h
  | bytes _, h => List.forall_mem_singleton.mpr h
  | fixedBytes _, h => List.forall_mem_singleton.mpr h
  | string _, h => List.forall_mem_singleton.mpr h

/-- What holds of values and passes on from every value to its members holds of everything in them.
-/
theorem forall_nodesOf {P : Value → Prop} (step : ∀ v, P v → ∀ item ∈ v.members, P item) :
    ∀ values : List Value, (∀ v ∈ values, P v) → ∀ node ∈ nodesOf values, P node
  | [], _ => fun _ hnode => absurd hnode List.not_mem_nil
  | v :: rest, h => by
    obtain ⟨hv, hrest⟩ := List.forall_mem_cons.mp h
    rw [nodesOf]
    exact List.forall_mem_append.mpr ⟨forall_nodes step v hv, forall_nodesOf step rest hrest⟩

end

/-- The members of a sequence have the type that it declares for its elements; nothing is asked of
other values. -/
def MembersTyped : Value → Prop
  | array elem items => ∀ item ∈ items, item.ty = elem
  | fixedArray elem items => ∀ item ∈ items, item.ty = elem
  | _ => True

/-- Every sequence in a value, at any depth, has members of the type that it declares. -/
def Uniform (v : Value) : Prop := ∀ node ∈ v.nodes, node.MembersTyped

/-- A value is uniform exactly when its own members are of the declared type and all of them are
uniform. -/
theorem uniform_iff {v : Value} :
    v.Uniform ↔ v.MembersTyped ∧ ∀ item ∈ v.members, item.Uniform := by
  rw [Uniform, nodes_eq, List.forall_mem_cons, List.forall_mem_flatMap]
  exact Iff.rfl

end Value

/-- A value is of no other type than its own. -/
theorem Shaped.ty_eq {v : Value} {t : Ty} (h : Shaped v t) : v.ty = t := by
  cases h <;> rfl

/-- A value of a type is uniform. -/
theorem Shaped.uniform {v : Value} {t : Ty} (h : Shaped v t) : v.Uniform := by
  induction h with
  | array members ih => exact Value.uniform_iff.mpr ⟨fun item hitem => (members item hitem).ty_eq, ih⟩
  | fixedArray members ih =>
    exact Value.uniform_iff.mpr ⟨fun item hitem => (members item hitem).ty_eq, ih⟩
  | tuple members ih => exact Value.uniform_iff.mpr ⟨trivial, ih⟩
  | _ => exact Value.uniform_iff.mpr ⟨trivial, fun item hitem => absurd hitem List.not_mem_nil⟩

mutual

/-- A uniform value is of its own type. -/
theorem Value.Uniform.shaped : ∀ {v : Value}, v.Uniform → Shaped v v.ty
  | .address a, _ => .address a
  | .uint w bits, _ => .uint w bits
  | .int w bits, _ => .int w bits
  | .bool b, _ => .bool b
  | .bytes octets, _ => .bytes octets
  | .fixedBytes octets, _ => .fixedBytes octets
  | .string s, _ => .string s
  | .array _ _, h =>
    have hmembers := Value.uniform_iff.mp h
    .array fun item hitem => hmembers.1 item hitem ▸ Value.shaped_of_uniform hmembers.2 item hitem
  | .fixedArray _ _, h =>
    have hmembers := Value.uniform_iff.mp h
    .fixedArray fun item hitem =>
      hmembers.1 item hitem ▸ Value.shaped_of_uniform hmembers.2 item hitem
  | .tuple _, h => .tuple (Value.shaped_of_uniform (Value.uniform_iff.mp h).2)

/-- Uniform values are of their own types. -/
theorem Value.shaped_of_uniform : ∀ {values : List Value},
    (∀ v ∈ values, v.Uniform) → ∀ v ∈ values, Shaped v v.ty
  | [], _ => fun _ h => absurd h List.not_mem_nil
  | _ :: _, h =>
    have hvalues := List.forall_mem_cons.mp h
    List.forall_mem_cons.mpr ⟨hvalues.1.shaped, Value.shaped_of_uniform hvalues.2⟩

end

/-- A value is of a type exactly when that is its type and every sequence in it has members of the
type that it declares. -/
theorem shaped_iff {v : Value} {t : Ty} : Shaped v t ↔ v.ty = t ∧ v.Uniform := by
  constructor
  · exact fun h => ⟨h.ty_eq, h.uniform⟩
  · rintro ⟨rfl, h⟩
    exact h.shaped

end ContractToolkit.Abi
