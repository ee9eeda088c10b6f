import ContractToolkit.Proofs.Abi.Layout
import ContractToolkit.Proofs.Abi.Nodes
import ContractToolkit.Proofs.Abi.Readers

/-!
# Heads and tails

The layout of values, told by their types and by nothing that the encoder
computes: heads follow one another by the sizes of the types, a static value
stands in its head, and the head of a dynamic one is the offset of its own
encoding. These encodings follow one another behind the heads up to the end, so
that nothing lies between two of them and no two overlap. Inside every sequence
and every tuple it is the same again, counted from where its members begin.
-/

namespace ContractToolkit.Abi

/-! ### Parts in a row -/

/-- The tail of parts in two rows. -/
theorem tails_append (front rest : List Part) : tails (front ++ rest) = tails front ++ tails rest :=
  List.flatMap_append

/-- The heads of parts in two rows: the second row has its tail behind that of the first. -/
theorem heads_append (offset : Nat) (front rest : List Part) :
    heads offset (front ++ rest) =
      heads offset front ++ heads (offset + (tails front).length) rest := by
  induction front generalizing offset with
  | nil => rfl
  | cons p front ih =>
    rw [List.cons_append, heads, heads, tails_cons, Part.tail, List.length_append]
    by_cases hdynamic : p.dynamic
    · rw [if_pos hdynamic, if_pos hdynamic, if_pos hdynamic, ih, List.append_assoc, Nat.add_assoc]
    · rw [if_neg hdynamic, if_neg hdynamic, if_neg hdynamic, ih, List.append_assoc,
        List.length_nil, Nat.zero_add]

/-- What a part has as its head, when its tail begins at an offset. -/
def Part.head (offset : Nat) (p : Part) : Bytes := if p.dynamic then sizeWord offset else p.octets

/-- The head of a part comes first, wherever its tail begins. -/
theorem heads_cons (offset : Nat) (p : Part) (rest : List Part) :
    heads offset (p :: rest) = p.head offset ++ heads (offset + p.tail.length) rest := by
  rw [heads, Part.head, Part.tail]
  by_cases hdynamic : p.dynamic
  · rw [if_pos hdynamic, if_pos hdynamic, if_pos hdynamic]
  · rw [if_neg hdynamic, if_neg hdynamic, if_neg hdynamic]
    rfl

section Between

variable (front : List Part) (p : Part) (rest : List Part)

/-- Where the tail of a part begins in a layout: behind all heads and the tails in front of it. -/
def tailOffset : Nat := headLength (front ++ p :: rest) + (tails front).length

/-- In a layout each head stands behind the heads in front of it. -/
theorem holdsAt_head :
    (layOut (front ++ p :: rest)).HoldsAt (headLength front)
      (p.head (tailOffset front p rest)) := by
  refine ⟨heads (headLength (front ++ p :: rest)) front,
    heads (tailOffset front p rest + p.tail.length) rest ++ tails (front ++ p :: rest), ?_,
    length_heads _ _⟩
  rw [layOut, heads_append, heads_cons, ← tailOffset]
  simp only [List.append_assoc]

/-- In a layout each tail stands behind all heads and the tails in front of it. -/
theorem holdsAt_tail : (layOut (front ++ p :: rest)).HoldsAt (tailOffset front p rest) p.tail := by
  refine ⟨heads (headLength (front ++ p :: rest)) (front ++ p :: rest) ++ tails front, tails rest,
    ?_, ?_⟩
  · rw [layOut, tails_append, tails_cons]
    simp only [List.append_assoc]
  · rw [List.length_append, length_heads, tailOffset]

end Between

namespace Value

/-- The parts of values one by one. -/
theorem parts_eq_map (values : List Value) : parts values = values.map part := by
  induction values with
  | nil => rfl
  | cons v rest ih => rw [parts_cons, ih, List.map_cons]

/-! ### The layout by types -/

/-- Octets that the heads of values take in a row, as their types say. -/
def headsSize (values : List Value) : Nat := total (values.map fun v => v.ty.headSize.getD 0)

/-- Octets that the own encodings of the dynamic ones among values take in a row. -/
def tailsSize (values : List Value) : Nat :=
  total ((values.filter fun v => v.ty.isDynamic).map fun v => v.octets.length)

/-- Octets are the layout of values. -/
structure LaidOut (values : List Value) (body : Bytes) : Prop where
  /-- The octets are whole words. -/
  words : wordSize ∣ body.length
  /-- There are the heads, behind them the own encodings of the dynamic values, and nothing else. -/
  whole : body.length = headsSize values + tailsSize values
  /-- A static value stands behind the heads in front of it, and takes what its type says. -/
  inline : ∀ front v rest, values = front ++ v :: rest → v.ty.isDynamic = false →
    v.ty.headSize = some v.octets.length ∧ body.HoldsAt (headsSize front) v.octets
  /-- Behind the heads in front of a dynamic value stands the offset of its own encoding, which
  begins where all heads and the own encodings in front of it end. -/
  behind : ∀ front v rest, values = front ++ v :: rest → v.ty.isDynamic = true →
    let offset := headsSize values + tailsSize front
    v.ty.headSize = some wordSize ∧ offset < Machine.sizeLimit ∧
      body.HoldsAt (headsSize front) (sizeWord offset) ∧ body.HoldsAt offset v.octets

/-- In the own encoding of a sequence or a tuple its members are laid out, behind their number if
that is not declared; nothing is asked of other values. -/
def MembersLaidOut : Value → Prop
  | array elem items =>
    ∃ body, (array elem items).octets = sizeWord items.length ++ body ∧ LaidOut items body
  | fixedArray elem items => LaidOut items (fixedArray elem items).octets
  | tuple items => LaidOut items (tuple items).octets
  | _ => True

/-- The own encodings of the dynamic values are the tail of a layout. -/
theorem tailsSize_eq (values : List Value) : tailsSize values = (tails (parts values)).length := by
  induction values with
  | nil => rfl
  | cons v rest ih =>
    have hdynamic : v.part.dynamic = v.ty.isDynamic := (isDynamic_ty v).symm
    rw [parts_cons, tails_cons, List.length_append, ← ih, Part.tail, hdynamic, tailsSize,
      List.filter_cons]
    cases v.ty.isDynamic with
    | true => exact total_cons _ _
    | false => exact (Nat.zero_add _).symm

/-- The heads of values take what their types say, if each of them does. -/
theorem headsSize_eq {values : List Value}
    (h : ∀ v ∈ values, v.ty.headSize = some v.part.headLength) :
    headsSize values = headLength (parts values) := by
  rw [parts_eq_map, headLength, List.map_map]
  refine congrArg total (List.map_congr_left fun v hv => ?_)
  rw [h v hv]
  rfl

end Value

/-! ### Lengths -/

/-- A packed byte string takes whole words. -/
theorem wordSize_dvd_packBytes (octets : Bytes) : wordSize ∣ (packBytes octets).length := by
  have hfilled : octets.length ≤ (octets.length + 31) / wordSize * wordSize := by
    rw [wordSize]
    omega
  rw [packBytes, padTo, List.length_append, List.length_append, length_sizeWord, Bytes.length_zeros,
    Nat.add_sub_cancel' hfilled]
  exact Nat.dvd_add (Nat.dvd_refl _) (Nat.dvd_mul_left _ _)

/-- A layout of parts that take whole words takes whole words. -/
theorem wordSize_dvd_layOut {parts : List Part} (h : ∀ p ∈ parts, wordSize ∣ p.octets.length) :
    wordSize ∣ (layOut parts).length := by
  induction parts with
  | nil => exact Nat.dvd_zero _
  | cons p rest ih =>
    obtain ⟨hp, hrest⟩ := List.forall_mem_cons.mp h
    rw [length_layOut_cons, Part.headLength, Part.tail]
    by_cases hdynamic : p.dynamic
    · rw [if_pos hdynamic, if_pos hdynamic]
      exact Nat.dvd_add (Nat.dvd_add (Nat.dvd_refl _) hp) (ih hrest)
    · rw [if_neg hdynamic, if_neg hdynamic]
      exact Nat.dvd_add (Nat.dvd_add hp (Nat.dvd_zero _)) (ih hrest)

/-- An elementary value takes a whole word. -/
theorem HasType.wordSize_dvd_elementary {v : Value} {t : Ty} (h : HasType v t)
    (elementary : t.isHashed = false) (hdeclared : t.fault? = none) :
    wordSize ∣ v.octets.length :=
  ⟨1, (h.length_octets elementary hdeclared).trans (Nat.mul_one _).symm⟩

mutual

/-- A typed value of a type that can be declared takes whole words. -/
theorem HasType.wordSize_dvd {v : Value} {t : Ty} : HasType v t → t.fault? = none →
    wordSize ∣ v.octets.length
  | .address a, hdeclared => (HasType.address a).wordSize_dvd_elementary rfl hdeclared
  | .uint high, hdeclared => (HasType.uint high).wordSize_dvd_elementary rfl hdeclared
  | .int pos low high, hdeclared =>
    (HasType.int pos low high).wordSize_dvd_elementary rfl hdeclared
  | .bool b, hdeclared => (HasType.bool b).wordSize_dvd_elementary rfl hdeclared
  | .fixedBytes octets, hdeclared =>
    (HasType.fixedBytes octets).wordSize_dvd_elementary rfl hdeclared
  | .bytes octets, _ => wordSize_dvd_packBytes octets
  | .string s, _ => wordSize_dvd_packBytes (Text.utf8 s)
  | @HasType.array elem items members, hdeclared => by
    have helem : elem.fault? = none := hdeclared
    rw [Value.octets, List.length_append, length_sizeWord]
    exact Nat.dvd_add (Nat.dvd_refl _)
      (wordSize_dvd_layOut (members.wordSize_dvd (Ty.faults?_replicate helem _)))
  | .fixedArray members, hdeclared => by
    have helem := (Ty.fixedArray_fault?_eq_none.mp hdeclared).2
    rw [Value.octets]
    exact wordSize_dvd_layOut (members.wordSize_dvd (Ty.faults?_replicate helem _))
  | .tuple members, hdeclared => by
    rw [Value.octets]
    exact wordSize_dvd_layOut (members.wordSize_dvd hdeclared)

/-- Typed values of types that can be declared take whole words. -/
theorem HaveTypes.wordSize_dvd {values : List Value} {types : List Ty} :
    HaveTypes values types → Ty.faults? types = none →
      ∀ p ∈ Value.parts values, wordSize ∣ p.octets.length
  | .nil, _ => fun _ hp => absurd hp List.not_mem_nil
  | .cons head tail, hdeclared => by
    rw [Ty.faults?, Option.or_eq_none_iff] at hdeclared
    rw [Value.parts_cons]
    exact List.forall_mem_cons.mpr ⟨head.wordSize_dvd hdeclared.1, tail.wordSize_dvd hdeclared.2⟩

end

/-- The own encoding of a value is no longer than a layout that it is part of. -/
theorem length_octets_le_layOut {values : List Value} {v : Value} (h : v ∈ values) :
    v.octets.length ≤ (layOut (Value.parts values)).length := by
  induction values with
  | nil => cases h
  | cons first rest ih =>
    rw [Value.parts_cons, length_layOut_cons]
    cases List.mem_cons.mp h with
    | inl hv =>
      have hoctets : v.octets.length ≤ _ := v.part.length_octets_le
      rw [← hv]
      omega
    | inr hrest =>
      have hlength := ih hrest
      omega

namespace Value

/-- A value that the encoder accepts and whose own encoding is no longer than a size can say. -/
structure Encodable (v : Value) : Prop where
  /-- The encoder accepts the value. -/
  accepted : v.fault? = none
  /-- The length of its own encoding is a size. -/
  limit : v.octets.length < Machine.sizeLimit

/-- The size of the type in the head is what the value takes there. -/
theorem Encodable.headSize {v : Value} (h : v.Encodable) :
    v.ty.headSize = some v.part.headLength := by
  obtain ⟨typed, hdeclared⟩ := hasType_of_fault? h.accepted
  exact typed.headSize hdeclared h.limit

/-- Values are encodable when they are accepted together and their layout is no longer than a size
can say. -/
theorem encodable_of_layOut {values : List Value} (h : faults? values = none)
    (hlimit : (layOut (parts values)).length < Machine.sizeLimit) :
    ∀ v ∈ values, v.Encodable := by
  intro v hv
  have hlength := length_octets_le_layOut hv
  exact ⟨faults?_eq_none.mp h v hv, by omega⟩

/-- Members of an encodable value are accepted together, in a layout that is no longer than the own
encoding of the value. -/
theorem Encodable.members {v : Value} (h : v.Encodable) :
    faults? v.members = none ∧ (layOut (parts v.members)).length < Machine.sizeLimit := by
  obtain ⟨haccepted, hlimit⟩ := h
  have hnone : (layOut (parts [])).length < Machine.sizeLimit := by decide
  cases v with
  | array elem items =>
    rw [fault?, Option.or_eq_none_iff, itemsFault?_eq_none] at haccepted
    rw [octets, List.length_append] at hlimit
    exact ⟨haccepted.2.2, Nat.lt_of_le_of_lt (Nat.le_add_left _ _) hlimit⟩
  | fixedArray elem items =>
    by_cases hempty : items.isEmpty
    · rw [fault?, if_pos hempty] at haccepted
      cases haccepted
    · rw [fault?, if_neg hempty, Option.or_eq_none_iff, itemsFault?_eq_none] at haccepted
      rw [octets] at hlimit
      exact ⟨haccepted.2.2, hlimit⟩
  | tuple items =>
    rw [fault?] at haccepted
    rw [octets] at hlimit
    exact ⟨haccepted, hlimit⟩
  | _ => exact ⟨rfl, hnone⟩

/-- Accepted values are laid out as their types say. -/
theorem laidOut_layOut {values : List Value} (h : faults? values = none)
    (hlimit : (layOut (parts values)).length < Machine.sizeLimit) :
    LaidOut values (layOut (parts values)) := by
  have hencodable := encodable_of_layOut h hlimit
  have hheads : headsSize values = headLength (parts values) :=
    headsSize_eq fun v hv => (hencodable v hv).headSize
  obtain ⟨typed, hdeclared⟩ := haveTypes_of_faults? h
  -- Where the head and the tail of a value stand, by the parts in front of it.
  have hplaces (front : List Value) (v : Value) (rest : List Value)
      (hsplit : values = front ++ v :: rest) :
      v.Encodable ∧ (layOut (parts values)).HoldsAt (headsSize front)
          (v.part.head (headsSize values + tailsSize front)) ∧
        (layOut (parts values)).HoldsAt (headsSize values + tailsSize front) v.part.tail := by
    subst hsplit
    have hfront : headsSize front = headLength (parts front) :=
      headsSize_eq fun w hw => (hencodable w (List.mem_append_left _ hw)).headSize
    have hparts : parts (front ++ v :: rest) = parts front ++ v.part :: parts rest := by
      rw [parts_eq_map, List.map_append, List.map_cons, parts_eq_map, parts_eq_map]
    rw [hheads, hfront, tailsSize_eq, hparts]
    exact ⟨hencodable v (List.mem_append_right _ List.mem_cons_self), holdsAt_head _ _ _,
      holdsAt_tail _ _ _⟩
  constructor
  · exact wordSize_dvd_layOut (typed.wordSize_dvd hdeclared)
  · rw [length_layOut, hheads, tailsSize_eq]
  · intro front v rest hsplit hstatic
    obtain ⟨hv, hhead, -⟩ := hplaces front v rest hsplit
    have hinline : v.part.dynamic = false := (isDynamic_ty v).symm.trans hstatic
    have hsize := hv.headSize
    rw [Part.headLength, hinline, if_neg Bool.false_ne_true] at hsize
    rw [Part.head, hinline, if_neg Bool.false_ne_true] at hhead
    exact ⟨hsize, hhead⟩
  · intro front v rest hsplit hdynamic offset
    obtain ⟨hv, hhead, htail⟩ := hplaces front v rest hsplit
    have hbehind : v.part.dynamic = true := (isDynamic_ty v).symm.trans hdynamic
    have hsize := hv.headSize
    rw [Part.headLength, hbehind, if_pos rfl] at hsize
    rw [Part.head, hbehind, if_pos rfl] at hhead
    rw [Part.tail, hbehind, if_pos rfl] at htail
    have hinside := htail.le_length
    exact ⟨hsize, by omega, hhead, htail⟩

/-- The members of an encodable value are laid out in its own encoding. -/
theorem Encodable.membersLaidOut {v : Value} (h : v.Encodable) : v.MembersLaidOut := by
  obtain ⟨haccepted, hlimit⟩ := h.members
  have hlaid := laidOut_layOut haccepted hlimit
  cases v with
  | array elem items => exact ⟨layOut (parts items), by rw [octets], hlaid⟩
  | fixedArray elem items => rw [MembersLaidOut, octets]; exact hlaid
  | tuple items => rw [MembersLaidOut, octets]; exact hlaid
  | _ => trivial

end Value

/-- Values that are encoded are laid out in the encoding as their types say: heads in a row, each
with the value itself or with the offset of its own encoding, and the own encodings in a row behind
them to the end. The same holds of the members of every sequence and of every tuple in the values,
at any depth, within its own encoding. -/
theorem encode_laidOut {values : List Value} {octets : Bytes} (h : encode values = .ok octets)
    (hlimit : octets.length < Machine.sizeLimit) :
    Value.LaidOut values octets ∧ ∀ v ∈ values, ∀ node ∈ v.nodes, node.MembersLaidOut := by
  obtain ⟨haccepted, rfl⟩ := encode_eq_ok_iff.mp h
  refine ⟨Value.laidOut_layOut haccepted hlimit, fun v hv node hnode => ?_⟩
  have hstep (v : Value) (hv : v.Encodable) : ∀ item ∈ v.members, item.Encodable :=
    Value.encodable_of_layOut hv.members.1 hv.members.2
  have hencodable := Value.encodable_of_layOut haccepted hlimit v hv
  exact (Value.forall_nodes hstep v hencodable node hnode).membersLaidOut

set_option maxRecDepth 8000 in
/-- A number, a tuple with an array of texts and a static sequence, and octets: the heads take three
words, the tuple begins behind them, and the octets begin where the tuple ends. -/
theorem encode_laidOut_nested :
    let values : List Value := [.uint 7 8, .tuple [.array .string [.string "a", .string ""],
      .fixedArray (.int 8) [.int (-1) 8, .int 1 8]], .bytes [0xbe, 0xef]]
    let octets := layOut (Value.parts values)
    encode values = .ok octets ∧ octets.length < Machine.sizeLimit ∧
      Value.LaidOut values octets ∧ ∀ v ∈ values, ∀ node ∈ v.nodes, node.MembersLaidOut := by
  intro values octets
  have hencode : encode values = .ok octets := by rfl
  have hlimit : octets.length < Machine.sizeLimit := by decide
  exact ⟨hencode, hlimit, encode_laidOut hencode hlimit⟩

end ContractToolkit.Abi
