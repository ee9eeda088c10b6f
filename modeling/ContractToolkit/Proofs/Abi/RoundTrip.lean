import ContractToolkit.Proofs.Abi.Layout
import ContractToolkit.Proofs.Abi.Reads

/-!
# Encoded values are read back

Wherever the octets of a typed value stand in data, data says that value there.
The statement is about any place in any data, so that it holds of a value in a
sequence in a tuple as it does of one on its own: the offset of a part counts
from the base of its own layout, and heads and tail of what remains of a layout
are followed apart from each other.
-/

namespace ContractToolkit.Abi

variable {data octets : Bytes} {position : Nat}

/-- A word that stands in data is read. -/
theorem wordAt_of_holdsAt (hstands : data.HoldsAt position octets)
    (hlength : octets.length = wordSize) (hlimit : data.length < Machine.sizeLimit) :
    wordAt data position = .ok octets := by
  have hinside := hstands.le_length
  exact wordAt_eq_ok.mpr ⟨hlength, hstands, by omega⟩

/-- A size whose word stands in data is read. -/
theorem sizeAt_of_holdsAt {n : Nat} (hstands : data.HoldsAt position (sizeWord n))
    (hn : n < Machine.sizeLimit) (hlimit : data.length < Machine.sizeLimit) :
    sizeAt data position = .ok n :=
  sizeAt_eq_ok.mpr ⟨hn, wordAt_of_holdsAt hstands (length_sizeWord n) hlimit⟩

/-- A packed byte string that stands in data is read, without what it is filled up with. -/
theorem packedAt_of_holdsAt (hstands : data.HoldsAt position (packBytes octets))
    (hlimit : data.length < Machine.sizeLimit) : packedAt data position = .ok octets := by
  rw [packBytes] at hstands
  have hbehind := hstands.right
  rw [length_sizeWord, padTo] at hbehind
  have hinside := hbehind.left.le_length
  have hlength := sizeAt_of_holdsAt hstands.left (by omega) hlimit
  exact packedAt_eq_ok.mpr ⟨hlength, hbehind.left, by omega⟩

/-- An elementary value whose word stands in data is read. -/
theorem HasType.reads_word {v : Value} {t : Ty} (h : HasType v t) (elementary : t.isHashed = false)
    (hdeclared : t.fault? = none) (hstands : data.HoldsAt position v.octets)
    (hlimit : data.length < Machine.sizeLimit) : Reads data t position v :=
  .word elementary h (wordAt_of_holdsAt hstands (h.length_octets elementary hdeclared) hlimit)

/-- The heads of a layout stand at its place, and its tail behind them. -/
theorem holdsAt_layOut {parts : List Part} (h : data.HoldsAt position (layOut parts)) :
    data.HoldsAt position (heads (headLength parts) parts) ∧
      data.HoldsAt (position + headLength parts) (tails parts) := by
  rw [layOut] at h
  have htail := h.right
  rw [length_heads] at htail
  exact ⟨h.left, htail⟩

/-- Members of one type whose layout stands in data have room there, and are no more than a size
can say. -/
theorem HaveTypes.checkElementCount {items : List Value} {elem : Ty} {count : Nat}
    (h : HaveTypes items (.replicate count elem)) (hdeclared : elem.fault? = none)
    (hroom : elem.takesRoom = true) (hstands : data.HoldsAt position (layOut (Value.parts items)))
    (hlimit : data.length < Machine.sizeLimit) :
    Abi.checkElementCount elem count data position = .ok () ∧ count < Machine.sizeLimit := by
  obtain ⟨size, hsize, hpos⟩ := Ty.takesRoom_iff.mp hroom
  have hinside := hstands.le_length
  have hlength := h.headLength_replicate hsize hdeclared (by omega)
  rw [length_layOut, hlength] at hinside
  have hcount : count ≤ count * size := Nat.le_mul_of_pos_right count hpos
  rw [checkElementCount_eq_ok]
  refine ⟨⟨size, hsize, ?_⟩, by omega⟩
  rw [Nat.max_eq_left hpos]
  omega

mutual

/-- A typed value is read wherever its octets stand. -/
theorem HasType.reads {v : Value} {t : Ty} : HasType v t → t.fault? = none → v.roomy = true →
    (position : Nat) → data.HoldsAt position v.octets → data.length < Machine.sizeLimit →
      Reads data t position v
  | .address a => fun hdeclared _ _ => (HasType.address a).reads_word rfl hdeclared
  | .uint high => fun hdeclared _ _ => (HasType.uint high).reads_word rfl hdeclared
  | .int pos low high => fun hdeclared _ _ => (HasType.int pos low high).reads_word rfl hdeclared
  | .bool b => fun hdeclared _ _ => (HasType.bool b).reads_word rfl hdeclared
  | .fixedBytes octets => fun hdeclared _ _ =>
    (HasType.fixedBytes octets).reads_word rfl hdeclared
  | .bytes _ => fun _ _ _ hstands hlimit => .bytes (packedAt_of_holdsAt hstands hlimit)
  | .string _ => fun _ _ _ hstands hlimit => .string (packedAt_of_holdsAt hstands hlimit)
  | @HasType.array elem items members => fun hdeclared hroomy position hstands hlimit => by
    have helem : elem.fault? = none := hdeclared
    rw [Value.roomy, Bool.and_eq_true] at hroomy
    rw [Value.octets] at hstands
    have hbehind := hstands.right
    rw [length_sizeWord] at hbehind
    obtain ⟨hroom, hcount⟩ := members.checkElementCount helem hroomy.1 hbehind hlimit
    obtain ⟨hheads, htail⟩ := holdsAt_layOut hbehind
    have hmembers := members.readsAll_of_roomy (Ty.faults?_replicate helem _) hroomy.2 _ _ _ hheads
      htail hlimit
    exact .array (sizeAt_of_holdsAt hstands.left hcount hlimit) hroom hmembers
  | @HasType.fixedArray elem items members => fun hdeclared hroomy position hstands hlimit => by
    have helem := (Ty.fixedArray_fault?_eq_none.mp hdeclared).2
    rw [Value.roomy, Bool.and_eq_true] at hroomy
    rw [Value.octets] at hstands
    obtain ⟨hroom, -⟩ := members.checkElementCount helem hroomy.1 hstands hlimit
    obtain ⟨hheads, htail⟩ := holdsAt_layOut hstands
    have hmembers := members.readsAll_of_roomy (Ty.faults?_replicate helem _) hroomy.2 _ _ _ hheads
      htail hlimit
    exact .fixedArray hroom hmembers
  | .tuple members => fun hdeclared hroomy position hstands hlimit => by
    rw [Value.octets] at hstands
    obtain ⟨hheads, htail⟩ := holdsAt_layOut hstands
    exact .tuple (members.readsAll_of_roomy hdeclared hroomy _ _ _ hheads htail hlimit)

/-- Typed values are read wherever their heads stand, if their tail stands at its offset from the
base. -/
theorem HaveTypes.readsAll_of_roomy {values : List Value} {types : List Ty} :
    HaveTypes values types → Ty.faults? types = none → Value.allRoomy values = true →
      (base head offset : Nat) →
      data.HoldsAt head (heads offset (Value.parts values)) →
        data.HoldsAt (base + offset) (tails (Value.parts values)) →
          data.length < Machine.sizeLimit → ReadsAll data base head types values
  | .nil => fun _ _ _ _ _ _ _ _ => .nil
  | @HaveTypes.cons v t values types first rest =>
    fun hdeclared hroomy base head offset hheads htails hlimit => by
    rw [Ty.faults?, Option.or_eq_none_iff] at hdeclared
    rw [Value.allRoomy, Bool.and_eq_true] at hroomy
    rw [Value.parts_cons] at hheads htails
    rw [tails_cons, Part.tail] at htails
    -- The offset moves on by what the part leaves in the tail, the head by what it takes there.
    by_cases hdynamic : v.part.dynamic
    · rw [heads, if_pos hdynamic] at hheads
      rw [if_pos hdynamic] at htails
      have hhead := hheads.left.le_length
      have hrest := hheads.right
      have htail := htails.right
      have hinside := htails.left.le_length
      rw [length_sizeWord] at hhead hrest
      rw [Nat.add_assoc] at htail
      have hsize : t.headSize = some wordSize := by
        rw [Ty.headSize, if_pos (first.dynamic_part ▸ hdynamic)]
      have hoffset := sizeAt_of_holdsAt hheads.left (by omega) hlimit
      have hvalue := first.reads hdeclared.1 hroomy.1 (base + offset) htails.left hlimit
      have hvalues := rest.readsAll_of_roomy hdeclared.2 hroomy.2 base (head + wordSize)
        (offset + v.part.octets.length) hrest htail hlimit
      refine .cons (placeOf_eq_ok.mpr ?_) hvalue
        (nextHead_eq_ok.mpr ⟨wordSize, hsize, rfl, by omega⟩) hvalues
      rw [if_pos (first.dynamic_part ▸ hdynamic)]
      exact ⟨offset, hoffset, rfl, by omega, by omega⟩
    · rw [heads, if_neg hdynamic] at hheads
      rw [if_neg hdynamic, List.nil_append] at htails
      have hhead := hheads.left.le_length
      have hlength : v.octets.length = v.part.octets.length := rfl
      have hsize := first.headSize hdeclared.1 (by omega)
      rw [Part.headLength, if_neg hdynamic] at hsize
      have hvalue := first.reads hdeclared.1 hroomy.1 head hheads.left hlimit
      have hvalues := rest.readsAll_of_roomy hdeclared.2 hroomy.2 base (head + v.part.octets.length)
        offset hheads.right htails hlimit
      refine .cons (placeOf_eq_ok.mpr ?_) hvalue
        (nextHead_eq_ok.mpr ⟨v.part.octets.length, hsize, rfl, by omega⟩) hvalues
      rw [if_neg (first.dynamic_part ▸ hdynamic)]

end

/-- Decoding gives back the values that were encoded, if the elements of all sequences inside the
values take room. -/
theorem decode_encode_of_roomy {values : List Value} {octets : Bytes}
    (h : encode values = .ok octets) (hlimit : octets.length < Machine.sizeLimit)
    (hroomy : Value.allRoomy values = true) : decode (Value.tys values) octets = .ok values := by
  obtain ⟨typed, hdeclared, rfl⟩ := encode_eq_ok.mp h
  obtain ⟨hheads, htail⟩ := holdsAt_layOut (Bytes.HoldsAt.self (layOut (Value.parts values)))
  have hreads := typed.readsAll_of_roomy hdeclared hroomy 0 0 _ hheads htail hlimit
  exact decode_eq_ok.mpr ⟨hdeclared, hreads⟩

/-- Typed values of types whose sequences all have elements that take room are read. -/
theorem HaveTypes.readsAll {values : List Value} {types : List Ty} (h : HaveTypes values types)
    (hdeclared : Ty.faults? types = none) (hroomy : Ty.allRoomy types = true)
    (base head offset : Nat) (hheads : data.HoldsAt head (heads offset (Value.parts values)))
    (htails : data.HoldsAt (base + offset) (tails (Value.parts values)))
    (hlimit : data.length < Machine.sizeLimit) : ReadsAll data base head types values :=
  h.readsAll_of_roomy hdeclared (h.allRoomy hroomy) base head offset hheads htails hlimit

/-- Decoding gives back the values that were encoded, at any nesting, if the encoding is no longer
than a size can say and the elements of all sequences take room. -/
theorem decode_encode {values : List Value} {octets : Bytes} (h : encode values = .ok octets)
    (hlimit : octets.length < Machine.sizeLimit)
    (hroomy : Ty.allRoomy (values.map Value.ty) = true) :
    decode (values.map Value.ty) octets = .ok values := by
  rw [← Value.tys_eq_map] at hroomy ⊢
  obtain ⟨typed, hdeclared, rfl⟩ := encode_eq_ok.mp h
  obtain ⟨hheads, htail⟩ := holdsAt_layOut (Bytes.HoldsAt.self (layOut (Value.parts values)))
  exact decode_eq_ok.mpr ⟨hdeclared, typed.readsAll hdeclared hroomy _ _ _ hheads htail hlimit⟩

set_option maxRecDepth 8000 in
/-- A static value in front, then a tuple and a sequence, both with static and dynamic members. -/
theorem decode_encode_nested :
    let values : List Value :=
      [.uint 7 8, .tuple [.array .string [.string "a", .string ""], .fixedArray (.int 8)
        [.int (-1) 8, .int 1 8]], .array (.tuple [.bool, .bytes]) [.tuple [.bool true,
          .bytes [0xbe, 0xef]]]]
    let octets := layOut (Value.parts values)
    encode values = .ok octets ∧ octets.length < Machine.sizeLimit ∧
      Ty.allRoomy (values.map Value.ty) = true ∧
        decode (values.map Value.ty) octets = .ok values := by
  intro values octets
  have hencode : encode values = .ok octets := by rfl
  have hlimit : octets.length < Machine.sizeLimit := by decide
  have hroomy : Ty.allRoomy (values.map Value.ty) = true := by rfl
  exact ⟨hencode, hlimit, hroomy, decode_encode hencode hlimit hroomy⟩

/-- Elements that take no room are not read back: an octet is asked for each of them. -/
example :
    encode [.array (.tuple []) [.tuple []]] = .ok (sizeWord 32 ++ sizeWord 1) ∧
      decode [.array (.tuple [])] (sizeWord 32 ++ sizeWord 1) =
        .error (.decode (.elementCount 1 (.tuple []) 64 64)) :=
  ⟨rfl, rfl⟩

end ContractToolkit.Abi
