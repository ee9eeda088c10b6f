import ContractToolkit.Text.Positions

/-!
# Cutting texts at positions

What is computed with positions yields the result that it has on characters when
no slip occurs, and sums only leave the range of sizes in texts that no machine
holds.
-/

namespace ContractToolkit.Text

/-! ### Positions -/

@[simp] theorem octetCount_nil : octetCount [] = 0 := rfl

@[simp] theorem octetCount_cons (c : Char) (s : List Char) :
    octetCount (c :: s) = c.utf8Size + octetCount s := rfl

@[simp] theorem octetCount_append (s t : List Char) :
    octetCount (s ++ t) = octetCount s + octetCount t := by
  induction s with
  | nil => exact (Nat.zero_add _).symm
  | cons c rest ih => rw [List.cons_append, octetCount_cons, octetCount_cons, ih, Nat.add_assoc]

/-- The octets of a text are those of its string. -/
theorem utf8ByteSize_ofList (s : List Char) : (String.ofList s).utf8ByteSize = octetCount s := by
  have hencode : (s.flatMap String.utf8EncodeChar).length = octetCount s := by
    induction s with
    | nil => rfl
    | cons c rest ih =>
      rw [List.flatMap_cons, List.length_append, String.length_utf8EncodeChar, ih, octetCount_cons]
  rw [← String.size_toByteArray, String.toByteArray_ofList, List.utf8Encode, ← hencode]
  simp

/-- A text has at least the octets of its parts. -/
theorem octetCount_le_of_sublist {s t : List Char} (h : s.Sublist t) :
    octetCount s ≤ octetCount t := by
  induction h with
  | slnil => exact Nat.le_refl 0
  | cons c _ ih => exact Nat.le_trans ih (Nat.le_add_left _ _)
  | cons_cons c _ ih => exact Nat.add_le_add_left ih _

/-- A position behind the first character cuts the others. -/
theorem cutAt?_cons (c : Char) (rest : List Char) (position : Nat) :
    cutAt? (c.utf8Size + position) (c :: rest) =
      (cutAt? position rest).map fun (front, behind) => (c :: front, behind) := by
  have hpos := c.utf8Size_pos
  have hposition : c.utf8Size + position = (c.utf8Size + position - 1) + 1 := by omega
  rw [hposition, cutAt?, ← hposition, if_pos (Nat.le_add_right _ _), Nat.add_sub_cancel_left]

/-- A text is cut at the number of octets in front. -/
theorem cutAt?_append (front behind : List Char) :
    cutAt? (octetCount front) (front ++ behind) = some (front, behind) := by
  induction front with
  | nil => cases behind <;> rfl
  | cons c front ih => rw [octetCount_cons, List.cons_append, cutAt?_cons, ih, Option.map_some]

/-- A cut leaves the text in front of the position and the text behind it. -/
theorem cutAt?_eq_some {position : Nat} {s front behind : List Char} :
    cutAt? position s = some (front, behind) ↔
      s = front ++ behind ∧ octetCount front = position := by
  constructor
  · intro h
    induction s generalizing position front with
    | nil =>
      cases position with
      | zero =>
        cases h
        exact ⟨rfl, rfl⟩
      | succ position => cases h
    | cons c rest ih =>
      cases position with
      | zero =>
        cases h
        exact ⟨rfl, rfl⟩
      | succ position =>
        rw [cutAt?] at h
        split at h
        · rename_i hfits
          obtain ⟨⟨first, others⟩, hrest, hparts⟩ := Option.map_eq_some_iff.mp h
          cases hparts
          obtain ⟨rfl, hcount⟩ := ih hrest
          refine ⟨rfl, ?_⟩
          rw [octetCount_cons, hcount]
          omega
        · cases h
  · rintro ⟨rfl, rfl⟩
    exact cutAt?_append front behind

/-- A text can be cut exactly at the valid positions of its string. -/
theorem isSome_cutAt?_iff {position : Nat} {s : List Char} :
    (cutAt? position s).isSome = true ↔ String.Pos.Raw.IsValid (String.ofList s) ⟨position⟩ := by
  rw [Option.isSome_iff_exists, String.Pos.Raw.isValid_iff_exists_append]
  constructor
  · rintro ⟨⟨front, behind⟩, hcut⟩
    obtain ⟨rfl, rfl⟩ := cutAt?_eq_some.mp hcut
    refine ⟨String.ofList front, String.ofList behind, String.ofList_append, ?_⟩
    rw [← utf8ByteSize_ofList]
    rfl
  · rintro ⟨front, behind, hs, hposition⟩
    refine ⟨(front.toList, behind.toList), cutAt?_eq_some.mpr ⟨?_, ?_⟩⟩
    · have hchars := congrArg String.toList hs
      rwa [String.toList_ofList, String.toList_append] at hchars
    · rw [← utf8ByteSize_ofList, String.ofList_toList]
      exact (congrArg String.Pos.Raw.byteIdx hposition).symm

/-- A character has no position in a text without it. -/
theorem positionOf?_eq_none {mark : Char} {s : List Char} (h : mark ∉ s) :
    positionOf? mark s = none := by
  induction s with
  | nil => rfl
  | cons c rest ih =>
    have hc : c ≠ mark := (List.ne_of_not_mem_cons h).symm
    rw [positionOf?, if_neg hc, ih (List.not_mem_of_not_mem_cons h), Option.map_none]

/-- The position of a character is the number of octets in front of its first occurrence. -/
theorem positionOf?_append {mark : Char} {front : List Char} (h : mark ∉ front)
    (rest : List Char) : positionOf? mark (front ++ mark :: rest) = some (octetCount front) := by
  induction front with
  | nil => exact if_pos rfl
  | cons c front ih =>
    have hc : c ≠ mark := (List.ne_of_not_mem_cons h).symm
    rw [List.cons_append, positionOf?, if_neg hc, ih (List.not_mem_of_not_mem_cons h)]
    rfl

/-- A text between two others is the one between their positions. -/
theorem slice_append (front middle behind : List Char) :
    slice (front ++ middle ++ behind) (octetCount front) (octetCount (front ++ middle)) =
      .ok middle := by
  rw [slice, cutAt?_append, Option.bind_some]
  dsimp only
  rw [cutAt?_append]

/-- The text behind a position. -/
theorem slice_behind (front behind : List Char) :
    slice (front ++ behind) (octetCount front) (octetCount (front ++ behind)) = .ok behind := by
  have hslice := slice_append front behind []
  rwa [List.append_nil] at hslice

/-- The text in front of a position. -/
theorem slice_front (front behind : List Char) :
    slice (front ++ behind) 0 (octetCount front) = .ok front := slice_append [] front behind

/-- A count in the range of a counter is gone on with, whatever the arithmetic. -/
theorem counted_of_fits {n : Int} (low : -Machine.countLimit ≤ n) (high : n < Machine.countLimit)
    (a : Machine.Arithmetic) : counted a n = .ok n := by
  rw [counted, Machine.count?_of_fits low high]

/-- A checked machine does not go on with a count above all others. -/
theorem counted_checked_of_limit_le {n : Int} (h : Machine.countLimit ≤ n) :
    counted .checked n = .error .overflow := by
  rw [counted, Machine.count?_checked_eq_none h]

variable {α β : Type} {size : Nat}

/-- A computation on a text of `size` octets yields a result: it makes no slip, unless a sum is no
size because the number of octets is none. -/
def Yields (size : Nat) (x : Except Slip α) (a : α) : Prop :=
  x = .ok a ∨ (x = .error .overflow ∧ Machine.sizeLimit ≤ size)

namespace Yields

/-- A result is yielded. -/
theorem of_eq {x : Except Slip α} {a : α} (h : x = .ok a) : Yields size x a := Or.inl h

/-- What makes no slip yields its result. -/
theorem ok (a : α) : Yields size (.ok a) a := .of_eq rfl

/-- On a text that a machine holds there is no slip. -/
theorem eq_ok {x : Except Slip α} {a : α} (h : Yields size x a) (hsize : size < Machine.sizeLimit) :
    x = .ok a :=
  h.resolve_right fun hlimit => Nat.not_le.mpr hsize hlimit.2

/-- A row of two computations yields what the second one makes of the result of the first. -/
theorem bind {x : Except Slip α} {f : α → Except Slip β} {a : α} {b : β} (hx : Yields size x a)
    (hf : Yields size (f a) b) : Yields size (x >>= f) b := by
  rcases hx with rfl | ⟨rfl, hlimit⟩
  · exact hf
  · exact Or.inr ⟨rfl, hlimit⟩

/-- A part of a text may be taken for the text. -/
theorem mono {x : Except Slip α} {a : α} {larger : Nat} (h : Yields size x a)
    (hle : size ≤ larger) : Yields larger x a :=
  h.imp_right fun ⟨hx, hlimit⟩ => ⟨hx, Nat.le_trans hlimit hle⟩

/-- A sum within the text is yielded. -/
theorem plus {a b : Nat} (h : a + b ≤ size) : Yields size (plus a b) (a + b) := by
  rw [Text.plus]
  cases hadd : Machine.add? a b with
  | some c =>
    obtain ⟨rfl, -⟩ := Machine.add?_eq_some.mp hadd
    exact .ok _
  | none =>
    refine Or.inr ⟨rfl, ?_⟩
    rw [Machine.add?] at hadd
    split at hadd
    · cases hadd
    · omega

/-- A difference above zero is yielded. -/
theorem minus (a b : Nat) : Yields size (minus (a + b) b) a := by
  rw [Text.minus, if_pos (Nat.le_add_left b a), Nat.add_sub_cancel]
  exact .ok a

end Yields

end ContractToolkit.Text
