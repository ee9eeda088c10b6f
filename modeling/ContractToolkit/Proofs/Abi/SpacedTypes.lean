import ContractToolkit.Proofs.Abi.WrittenTypes

/-!
# White space in written types

White space may stand in a type where brackets are open, and in front of the
suffix of a sequence. Only in front of a suffix does it end the first word of the
text: that word is written as the type of the elements, and the suffix is left to
whoever reads on.
-/

namespace ContractToolkit.Abi

/-- The type of the elements of a sequence, or of the elements of these elements, and so on. -/
inductive Ty.ElementOf (u : Ty) : Ty → Prop
  | array : ElementOf u (.array u)
  | fixedArray {length : Nat} : ElementOf u (.fixedArray u length)
  | arrayOf {t : Ty} (inner : ElementOf u t) : ElementOf u (.array t)
  | fixedArrayOf {t : Ty} {length : Nat} (inner : ElementOf u t) : ElementOf u (.fixedArray t length)

namespace Ty.ElementOf

variable {t u v : Ty}

/-- No type is the type of its own elements. -/
theorem ne (h : u.ElementOf t) : u ≠ t := by
  have hsize : sizeOf u < sizeOf t := by
    induction h with
    | array => simp
    | fixedArray =>
      simp
      omega
    | arrayOf _ ih =>
      simp
      omega
    | fixedArrayOf _ ih =>
      simp
      omega
  rintro rfl
  exact Nat.lt_irrefl _ hsize

/-- The elements of a type that can be declared are of such a type. -/
theorem fault?_eq_none (h : u.ElementOf t) (hdeclared : t.fault? = none) : u.fault? = none := by
  induction h with
  | array => exact hdeclared
  | fixedArray => exact (Ty.fixedArray_fault?_eq_none.mp hdeclared).2
  | arrayOf _ ih => exact ih hdeclared
  | fixedArrayOf _ ih => exact ih (Ty.fixedArray_fault?_eq_none.mp hdeclared).2

/-- A suffix makes a sequence of its elements. -/
theorem of_suffix {inside : List Char} (h : Suffix inside u t) : u.ElementOf t := by
  cases h with
  | array => exact .array
  | fixedArray _ _ => exact .fixedArray

/-- The elements of an element are under one more suffix. -/
theorem suffix {inside : List Char} (h : u.ElementOf t) (hsuffix : Suffix inside t v) :
    u.ElementOf v := by
  cases hsuffix with
  | array => exact .arrayOf h
  | fixedArray _ _ => exact .fixedArrayOf h

end Ty.ElementOf

section

variable {outside : Char → Prop} {s : List Char}

/-- A word of the characters of identifiers opens and closes no brackets. -/
theorem Spans.of_isNamePart (houtside : ∀ c, Bare c → outside c)
    (h : ∀ c ∈ s, Interface.isNamePart c = true) : Spans outside 0 s :=
  .of_forall fun c hc =>
    have hbare := bare_of_isNamePart (h c hc)
    ⟨hbare.1, hbare.2.1, houtside c hbare.2.2⟩

/-- A suffix closes the brackets it opens, with nothing outside of them. -/
theorem Ty.Suffix.spans {inside : List Char} {t u : Ty} (h : Suffix (Text.trim inside) t u) :
    Spans outside 0 ('[' :: (inside ++ [']'])) := by
  have hinside : Spans (fun _ => True) 0 inside := by
    refine .of_forall fun c hc => ?_
    cases Text.isBlank_or_mem_trim hc with
    | inl hblank =>
      obtain ⟨noOpening, noClosing, -⟩ := no_cut_of_isBlank hblank
      exact ⟨noOpening, noClosing, trivial⟩
    | inr hmem =>
      generalize Text.trim inside = length at h hmem
      cases h with
      | array => cases hmem
      | fixedArray written _ =>
        obtain ⟨noOpening, noClosing, -⟩ := bare_of_writesSize written c hmem
        exact ⟨noOpening, noClosing, trivial⟩
  exact .group rfl rfl hinside .nil

/-- A tuple closes the brackets it opens, with nothing but its keyword outside of them. -/
theorem Spans.tuple (houtside : ∀ c, Bare c → outside c) {keyword body : List Char}
    (hkeyword : keyword = [] ∨ keyword = "tuple".toList) {parts : List (List Char)}
    (hcut : components body = .ok parts) :
    Spans outside 0 (keyword ++ '(' :: (body ++ [')'])) := by
  have hgroup : Spans outside 0 ('(' :: (body ++ [')'])) :=
    .group rfl rfl (spans_of_components hcut) .nil
  rcases hkeyword with rfl | rfl
  · exact hgroup
  · have hword : Spans outside 0 "tuple".toList :=
      .of_isNamePart houtside (List.all_eq_true.mp rfl)
    exact hword.append hgroup

end

namespace Written

variable {s : List Char} {t : Ty}

/-- A written type closes the brackets it opens, with no comma outside of them. -/
theorem spans (h : Written s t) : Spans (· ≠ ',') 0 s := by
  induction h with
  | word named =>
    exact .of_isNamePart (fun _ hc => hc.1) (Ty.names_of_elementary named).isNamePart
  | suffix _ blank _ length ih => exact (ih.append (.of_blank blank)).append length.spans
  | tuple introduction cut _ _ => exact .tuple (fun _ hc => hc.1) introduction cut

/-- A written type is one word, or its first word is written as the type of its elements. -/
theorem unbroken_or (h : Written s t) :
    Unbroken s ∨ ∃ front gap rest u, s = front ++ gap :: rest ∧ Text.isBlank gap = true ∧
      Unbroken front ∧ Written front u ∧ u.ElementOf t := by
  induction h with
  | word named =>
    exact Or.inl (.of_isNamePart (fun _ hc => hc.2) (Ty.names_of_elementary named).isNamePart)
  | tuple introduction cut _ _ => exact Or.inl (.tuple (fun _ hc => hc.2) introduction cut)
  | @suffix s gap inside t u elem blank _ length ih =>
    rcases ih with hone | ⟨front, first, rest, v, rfl, hfirst, hfront, hwritten, hinner⟩
    · cases gap with
      | nil =>
        rw [List.append_nil]
        exact Or.inl (hone.append length.spans)
      | cons first gap =>
        have hfirst := blank first List.mem_cons_self
        exact Or.inr ⟨s, first, gap ++ '[' :: (inside ++ [']']), t, by simp, hfirst, hone, elem,
          .of_suffix length⟩
    · exact Or.inr ⟨front, first, rest ++ gap ++ '[' :: (inside ++ [']']), v, by simp, hfirst,
        hfront, hwritten, hinner.suffix length⟩

end Written

/-- A text with one component, the first word of which is written as a type, is the body of a tuple
of that type. -/
theorem Ty.ofChars_tuple {body part : List Char} {t : Ty} (hcut : components body = .ok [part])
    (hwritten : Written (firstWord part).1 t) (hdeclared : t.fault? = none) :
    Ty.ofChars ('(' :: (body ++ [')'])) = .ok (.tuple [t]) := by
  have htuple : Written ([] ++ '(' :: (body ++ [')'])) (.tuple ([(part, t)].map Prod.snd)) :=
    .tuple (Or.inl rfl) hcut (List.forall_mem_singleton.mpr hwritten)
  have hfields : (Ty.tuple [t]).fault? = none :=
    Ty.faults?_eq_none.mpr (List.forall_mem_singleton.mpr hdeclared)
  exact htuple.ofChars_eq hfields

end ContractToolkit.Abi
