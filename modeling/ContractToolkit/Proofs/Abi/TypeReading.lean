import ContractToolkit.Proofs.Abi.WrittenTypes

/-!
# Types are read as the grammar derives them

The reader peels suffixes off the end of a text and cuts the body of a tuple at
commas outside of brackets, without looking whether the brackets inside match.
Of the texts without white space it still accepts those of the grammar and no
others: whatever it takes for a suffix, a component or a name has to be read in
turn, and what is read is put together as the grammar does.
-/

namespace ContractToolkit.Abi

namespace Ty

mutual

/-- Whether the declared lengths in a type are sizes. A length that a program holds always is one;
beyond them the grammar reads no length. -/
def isSized : Ty → Bool
  | array elem => isSized elem
  | fixedArray elem length => length < Machine.sizeLimit && isSized elem
  | tuple fields => allSized fields
  | _ => true

/-- Whether the declared lengths in all types of a list are sizes. -/
def allSized : List Ty → Bool
  | [] => true
  | t :: rest => isSized t && allSized rest

end

/-- The lengths in a list of types are sizes when those in each of them are. -/
theorem allSized_iff {types : List Ty} :
    allSized types = true ↔ ∀ t ∈ types, t.isSized = true := by
  induction types with
  | nil => simp [allSized]
  | cons t rest ih => simp [allSized, ih]

/-- A width that can be declared is a size. -/
theorem lt_sizeLimit_of_widthFault? {bits : Nat} (h : widthFault? bits = none) :
    bits < Machine.sizeLimit := by
  have hbits : bits ≤ 256 := by
    refine Nat.le_of_not_lt fun hlarge => ?_
    rw [widthFault?, if_pos (Or.inr (Or.inl hlarge))] at h
    cases h
  exact Nat.lt_of_le_of_lt hbits (by decide)

/-- A length of a byte string that can be declared is a size. -/
theorem lt_sizeLimit_of_fixedBytes {size : Nat} (h : (fixedBytes size).fault? = none) :
    size < Machine.sizeLimit :=
  Nat.lt_of_le_of_lt (fixedBytes_fault?_eq_none.mp h).2 (by decide)

/-- A name of a type that can be declared is read as that type. -/
theorem elementary_eq {s : List Char} {t : Ty} (h : Names s t) (hdeclared : t.fault? = none) :
    elementary s = .ok t := by
  cases h with
  | address => rfl
  | bool => rfl
  | string => rfl
  | bytes => rfl
  | uint => rfl
  | int => rfl
  | function => rfl
  | @uintOf digits decimal =>
    have hbits := sized?_append "uint" decimal (lt_sizeLimit_of_widthFault? hdeclared)
    have hdigits := (Text.isDecimal_iff.mp decimal).1
    rw [elementary, hbits]
    simp [hdigits, Except.map]
  | @intOf digits decimal =>
    have hbits := sized?_append "int" decimal (lt_sizeLimit_of_widthFault? hdeclared)
    have hother : sized? "uint" ("int".toList ++ digits) = none := rfl
    have hdigits := (Text.isDecimal_iff.mp decimal).1
    rw [elementary, hbits, hother]
    simp [hdigits, Except.map]
  | @bytesOf digits decimal =>
    have hsize := sized?_append "bytes" decimal (lt_sizeLimit_of_fixedBytes hdeclared)
    have huint : sized? "uint" ("bytes".toList ++ digits) = none := rfl
    have hint : sized? "int" ("bytes".toList ++ digits) = none := rfl
    have hdigits := (Text.isDecimal_iff.mp decimal).1
    rw [elementary, hsize, huint, hint]
    simp [hdigits, Except.map]

/-- Whatever has a name has no length. -/
theorem isSized_of_names {s : List Char} {t : Ty} (h : Names s t) : t.isSized = true := by
  cases h <;> rfl

end Ty

/-- Components of a text without white space, joined with commas, are the text. -/
theorem intercalate_components {s : List Char} (hs : Text.Solid s) {parts : List (List Char)}
    (h : components s = .ok parts) :
    s = [','].intercalate parts ∧ ∀ p ∈ parts, p ≠ [] ∧ Text.Solid p := by
  obtain ⟨pieces, hpieces, hparts⟩ := components_eq_ok.mp h
  obtain ⟨-, hjoined⟩ := intercalate_piecesFrom hpieces
  rw [List.reverse_nil, List.nil_append] at hjoined
  have hsolid : ∀ p ∈ pieces, Text.Solid p := fun p hp c hc =>
    hs c (hjoined ▸ Text.mem_intercalate hp hc)
  have htrim : pieces.map Text.trim = pieces := by
    rw [List.map_congr_left fun p hp => (hsolid p hp).trimmed.trim_eq, List.map_id']
  rw [htrim] at hparts
  rcases hparts with ⟨rfl, rfl⟩ | ⟨rfl, hne⟩
  · exact ⟨hjoined.symm, fun p hp => absurd hp List.not_mem_nil⟩
  · exact ⟨hjoined.symm, fun p hp => ⟨hne p hp, hsolid p hp⟩⟩

/-- A text of the grammar is taken apart as it is derived, if its type can be declared and its
lengths are sizes. -/
theorem Spells.written {s : List Char} {t : Ty} (h : Spells s t) (hdeclared : t.fault? = none)
    (hsized : t.isSized = true) : Written s t := by
  -- A suffix of the grammar has no white space in front of it.
  have hsuffix {elem inside : List Char} {t u : Ty} (helem : Written elem t)
      (hopening : '[' ∉ inside) (hinside : Text.Solid inside) (hlength : Ty.Suffix inside t u) :
      Written (elem ++ '[' :: (inside ++ [']'])) u := by
    have hnone : Text.Blank [] := by decide
    have hwritten := Written.suffix helem hnone hopening (hinside.trimmed.trim_eq.symm ▸ hlength)
    rwa [List.append_nil] at hwritten
  induction h with
  | word name => exact .word (Ty.elementary_eq name hdeclared)
  | array _ ih =>
    have hnone : Text.Solid [] := by decide
    exact hsuffix (ih hdeclared hsized) List.not_mem_nil hnone .array
  | fixedArray _ written ih =>
    obtain ⟨-, hdeclared⟩ := Ty.fixedArray_fault?_eq_none.mp hdeclared
    rw [Ty.isSized, Bool.and_eq_true, decide_eq_true_eq] at hsized
    obtain ⟨hlimit, hsized⟩ := hsized
    have hbare := bare_of_writesSize written
    have hopening : '[' ∉ _ := fun hc => absurd (hbare _ hc).1 (by decide)
    exact hsuffix (ih hdeclared hsized) hopening (fun c hc => (hbare c hc).2.2.2)
      (.fixedArray written hlimit)
  | @tuple keyword members introduction spelled ih =>
    have hfields := Ty.faults?_eq_none.mp hdeclared
    have hsizes := Ty.allSized_iff.mp hsized
    have hparts : components ([','].intercalate (members.map Prod.fst)) =
        .ok (members.map Prod.fst) :=
      components_intercalate [] (by decide)
        (List.forall_mem_map.mpr fun m hm => (spelled m hm).component)
    refine .tuple introduction hparts fun m hm => ?_
    have hfield : m.2 ∈ members.map Prod.snd := List.mem_map_of_mem hm
    rw [firstWord_of_solid (spelled m hm).solid]
    exact ih m hm (hfields _ hfield) (hsizes _ hfield)

/-- A text without white space that is taken apart as a type is derived for it, and its lengths are
sizes. -/
theorem Written.spells {s : List Char} {t : Ty} (h : Written s t) (hs : Text.Solid s) :
    Spells s t ∧ t.isSized = true := by
  induction h with
  | word named =>
    have hname := Ty.names_of_elementary named
    exact ⟨.word hname, Ty.isSized_of_names hname⟩
  | @suffix s gap inside t u elem blank opening length ih =>
    obtain ⟨hfront, hbehind⟩ := List.forall_mem_append.mp hs
    obtain ⟨helem, hgap⟩ := List.forall_mem_append.mp hfront
    obtain ⟨-, hbehind⟩ := List.forall_mem_cons.mp hbehind
    obtain ⟨hinside, -⟩ := List.forall_mem_append.mp hbehind
    obtain ⟨hspells, hsized⟩ := ih helem
    have hnone : gap = [] := List.eq_nil_iff_forall_not_mem.mpr fun c hc =>
      Bool.false_ne_true ((hgap c hc).symm.trans (blank c hc))
    rw [Text.Solid.trimmed hinside |>.trim_eq] at length
    rw [hnone, List.append_nil]
    cases length with
    | array => exact ⟨.array hspells, hsized⟩
    | fixedArray written limit =>
      refine ⟨.fixedArray hspells written, ?_⟩
      rw [Ty.isSized, hsized, Bool.and_true, decide_eq_true_eq]
      exact limit
  | @tuple keyword body members introduction cut written ih =>
    have hinside : Text.Solid body := fun c hc =>
      hs c (List.mem_append_right _ (List.mem_cons_of_mem _ (List.mem_append_left _ hc)))
    obtain ⟨rfl, hwords⟩ := intercalate_components hinside cut
    have hmembers (m : List Char × Ty) (hm : m ∈ members) : Spells m.1 m.2 ∧ m.2.isSized = true := by
      have hsolid := (hwords m.1 (List.mem_map_of_mem hm)).2
      have hmember := ih m hm
      rw [firstWord_of_solid hsolid] at hmember
      exact hmember hsolid
    exact ⟨.tuple introduction fun m hm => (hmembers m hm).1,
      Ty.allSized_iff.mpr (List.forall_mem_map.mpr fun m hm => (hmembers m hm).2)⟩

/-- The texts without white space that declare a type are those of the grammar, as far as the type
passes the check and its lengths are sizes. -/
theorem Ty.ofChars_eq_ok {s : List Char} (hs : Text.Solid s) {t : Ty} :
    ofChars s = .ok t ↔ Spells s t ∧ t.check = .ok () ∧ t.isSized = true := by
  rw [ofChars_eq_ok_iff_written, hs.trimmed.trim_eq, check_eq_ok]
  constructor
  · rintro ⟨hwritten, hdeclared⟩
    obtain ⟨hspells, hsized⟩ := hwritten.spells hs
    exact ⟨hspells, hdeclared, hsized⟩
  · rintro ⟨hspells, hdeclared, hsized⟩
    exact ⟨hspells.written hdeclared hsized, hdeclared⟩

/-- What the grammar of types is to reading, of the texts without white space: those of the grammar
are read, as the types they are derived for, and no others are. In particular, a text is refused
when its brackets do not match or a component is missing, at any depth. -/
theorem reading_follows_grammar {s : String} (hs : Text.Solid s.toList) :
    (∀ t, Ty.ofText s = .ok t ↔ Spells s.toList t ∧ t.check = .ok () ∧ t.isSized = true) ∧
      (¬ Bracketed Bare s.toList ∨ (∃ gap ∈ componentGaps, gap <:+: s.toList) →
        ∃ fault, Ty.ofText s = .error fault) := by
  have hread (t : Ty) :
      Ty.ofText s = .ok t ↔ Spells s.toList t ∧ t.check = .ok () ∧ t.isSized = true :=
    Ty.ofChars_eq_ok hs
  refine ⟨hread, fun hmalformed => ?_⟩
  cases hresult : Ty.ofText s with
  | error fault => exact ⟨fault, rfl⟩
  | ok t =>
    obtain ⟨hspells, -⟩ := (hread t).mp hresult
    rcases hmalformed with hbrackets | ⟨gap, hgap, hinfix⟩
    · exact absurd hspells.bracketed hbrackets
    · exact absurd hinfix (hspells.filled.not_infix hgap)

/-- A sequence of tuples with widths left out and a sign in a length is read; a trailing comma behind
an empty tuple is refused. -/
theorem reading_follows_grammar_nested :
    let s := "tuple(uint,(bytes[+02],()))[]"
    let t : Ty := .array (.tuple [.uint 256, .tuple [.fixedArray .bytes 2, .tuple []]])
    let u := "(bool,(),)"
    Text.Solid s.toList ∧ Spells s.toList t ∧ Text.Solid u.toList ∧
      ∃ fault, Ty.ofText u = .error fault :=
  have hs : Text.Solid "tuple(uint,(bytes[+02],()))[]".toList := by decide
  have hu : Text.Solid "(bool,(),)".toList := by decide
  have hread : Ty.ofText "tuple(uint,(bytes[+02],()))[]" =
    .ok (.array (.tuple [.uint 256, .tuple [.fixedArray .bytes 2, .tuple []]])) := rfl
  ⟨hs, (((reading_follows_grammar hs).1 _).mp hread).1, hu,
    (reading_follows_grammar hu).2 (Or.inr ⟨[',', ')'], by decide, "(bool,()".toList, [], rfl⟩)⟩

end ContractToolkit.Abi
