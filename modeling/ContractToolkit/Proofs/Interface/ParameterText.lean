import ContractToolkit.Proofs.Abi.TypeText

/-!
# Parameters are read back from their texts

The text of a parameter is that of its type and one or two words behind it: the
mark of an indexed parameter and a name. A name is taken for a name as long as
it is an identifier that says nothing else about a parameter. Lists of such
texts are cut at the commas between them.
-/

namespace ContractToolkit.Interface

open Abi

/-- Words of a parameter that are never its name. -/
def reservedWords : List String := ["indexed", "memory", "calldata", "storage", "payable"]

/-- A name that a text can give to a parameter: none, or an identifier that is no reserved word. -/
def ReadableName (name : String) : Prop :=
  name = "" ∨ (isIdentifier name.toList = true ∧ name ∉ reservedWords)

instance (name : String) : Decidable (ReadableName name) :=
  inferInstanceAs (Decidable (_ ∨ _))

/-- An identifier has characters, all of which may stand in identifiers. -/
theorem isNamePart_of_isIdentifier {s : List Char} (h : isIdentifier s = true) :
    s ≠ [] ∧ ∀ c ∈ s, isNamePart c = true := by
  cases s with
  | nil => cases h
  | cons first rest =>
    rw [isIdentifier, Bool.and_eq_true, List.all_eq_true] at h
    obtain ⟨hfirst, hrest⟩ := h
    have hstart : isNamePart first = true := by
      simp only [isNameStart, isNamePart, Char.isAlphanum, Bool.or_eq_true] at hfirst ⊢
      exact Or.imp_left (Or.imp_left Or.inl) hfirst
    refine ⟨List.cons_ne_nil _ _, fun c hc => ?_⟩
    cases List.mem_cons.mp hc with
    | inl hc => exact hc ▸ hstart
    | inr hc => exact hrest c hc

/-- An identifier is a word without parentheses. -/
theorem word_of_isIdentifier {s : List Char} (h : isIdentifier s = true) :
    s ≠ [] ∧ Text.Solid s ∧ '(' ∉ s := by
  obtain ⟨hne, hparts⟩ := isNamePart_of_isIdentifier h
  refine ⟨hne, fun c hc => (bare_of_isNamePart (hparts c hc)).2.2.2, fun hc => ?_⟩
  exact absurd (hparts _ hc) (by decide)

/-- An identifier is not empty. -/
theorem isEmpty_of_isIdentifier {name : String} (h : isIdentifier name.toList = true) :
    name.isEmpty = false := by
  cases hempty : name.isEmpty with
  | true =>
    rw [String.isEmpty_iff.mp hempty] at h
    cases h
  | false => rfl

/-- A word that is no reserved word is the name of a parameter. -/
theorem paramWords_name {name : String} (h : name ∉ reservedWords) (component : List Char)
    (indexed : Bool) :
    paramWords component indexed none [name.toList] = .ok (indexed, name.toList) := by
  have hother (word : String) (hword : word ∈ reservedWords) : name.toList ≠ word.toList :=
    fun heq => h (String.toList_inj.mp heq ▸ hword)
  have hmark := hother "indexed" (by decide)
  have hmemory := decide_eq_false (hother "memory" (by decide))
  have hcalldata := decide_eq_false (hother "calldata" (by decide))
  have hstorage := decide_eq_false (hother "storage" (by decide))
  have hpayable := decide_eq_false (hother "payable" (by decide))
  have hlocation : isLocation name.toList = false := by
    rw [isLocation, hmemory, hcalldata, hstorage, hpayable]
    rfl
  rw [paramWords, if_neg hmark, hlocation, if_neg Bool.false_ne_true]
  rfl

/-- A parameter without a mark. -/
def Param.unmarked (p : Param) : EventParam := ⟨p.name, p.ty, false⟩

/-- The text of a parameter is that of one without a mark. -/
theorem Param.text_unmarked (p : Param) : p.unmarked.text = p.text := by
  rw [EventParam.text, Param.text]
  by_cases hname : p.name.isEmpty = true
  · simp [Param.unmarked, hname]
  · simp [Param.unmarked, hname, String.append_assoc]

/-- The parameters of a function come back from parameters without marks. -/
theorem map_plain_unmarked (ps : List Param) :
    (ps.map Param.unmarked).map EventParam.plain = ps := by
  rw [List.map_map]
  exact List.map_id ps

namespace EventParam

/-- A parameter of an event that its text gives again. -/
structure Readable (p : EventParam) : Prop where
  /-- The name can be read. -/
  name : ReadableName p.name
  /-- The type can be declared. -/
  declared : p.ty.fault? = none
  /-- The lengths in the type are sizes. -/
  sized : p.ty.isSized = true

/-- The words behind the type of a parameter. -/
def words (p : EventParam) : List (List Char) :=
  (if p.indexed then ["indexed".toList] else []) ++
    (if p.name.isEmpty then [] else [p.name.toList])

/-- The text of a parameter has a blank in front of each word behind the type. -/
theorem toList_text (p : EventParam) :
    p.text.toList = p.ty.chars ++ p.words.flatMap (' ' :: ·) := by
  rw [EventParam.text, words]
  by_cases hname : p.name.isEmpty = true
  · cases hindexed : p.indexed with
    | true => simp [hname, Ty.canonical]
    | false => simp [hname, Ty.canonical]
  · cases hindexed : p.indexed with
    | true => simp [hname, Ty.canonical]
    | false => simp [hname, Ty.canonical]

/-- Each word behind the type consists of the characters of identifiers. -/
theorem Readable.words {p : EventParam} (h : p.Readable) :
    ∀ w ∈ p.words, w ≠ [] ∧ ∀ c ∈ w, isNamePart c = true := by
  intro w hw
  cases List.mem_append.mp hw with
  | inl hmark =>
    have hmark : w = "indexed".toList := by
      cases hindexed : p.indexed with
      | true => simpa [hindexed] using hmark
      | false => simp [hindexed] at hmark
    rw [hmark]
    exact ⟨List.cons_ne_nil _ _, List.all_eq_true.mp rfl⟩
  | inr hname =>
    by_cases hempty : p.name.isEmpty = true
    · simp [hempty] at hname
    · have hw : w = p.name.toList := by simpa [hempty] using hname
      cases h.name with
      | inl hnone => simp [hnone] at hempty
      | inr hidentifier => exact hw ▸ isNamePart_of_isIdentifier hidentifier.1

/-- No word behind the type has white space. -/
theorem Readable.solid {p : EventParam} (h : p.Readable) :
    ∀ w ∈ p.words, w ≠ [] ∧ Text.Solid w := fun w hw =>
  ⟨(h.words w hw).1, fun c hc => (bare_of_isNamePart ((h.words w hw).2 c hc)).2.2.2⟩

/-- The mark and the name are found among the words behind the type. -/
theorem Readable.paramWords_eq {p : EventParam} (h : p.Readable) (component : List Char) :
    paramWords component false none p.words = .ok (p.indexed, p.name.toList) := by
  rw [EventParam.words]
  cases h.name with
  | inl hnone =>
    cases hindexed : p.indexed with
    | true =>
      rw [hnone]
      rfl
    | false =>
      rw [hnone]
      rfl
  | inr hname =>
    have hempty : p.name.isEmpty = false := isEmpty_of_isIdentifier hname.1
    have hword := paramWords_name hname.2 component
    rw [hempty, if_neg Bool.false_ne_true]
    cases hindexed : p.indexed with
    | true => exact hword true
    | false => exact hword false

/-- The type is the first word of the text of a parameter. -/
theorem firstWord_text (p : EventParam) :
    firstWord p.text.toList = (p.ty.chars, p.words.flatMap (' ' :: ·)) := by
  have hone : Unbroken p.ty.chars := p.ty.bracketed_chars.spans.mono fun _ h => h.2
  rw [toList_text]
  cases p.words with
  | nil =>
    rw [List.flatMap_nil, List.append_nil]
    exact hone.firstWord_eq
  | cons w rest => exact hone.firstWord_append (by decide) (w ++ rest.flatMap (' ' :: ·))

/-- A parameter is read from its text. -/
theorem ofChars_text {p : EventParam} (h : p.Readable) : ofChars p.text.toList = .ok p := by
  have hty := Ty.ofChars_chars h.declared h.sized
  have hwords : Text.words (p.words.flatMap (' ' :: ·)) = p.words := Text.words_flatMap h.solid
  rw [ofChars, firstWord_text]
  dsimp only
  rw [hty, hwords]
  change (do
    let read ← paramWords p.text.toList false none p.words
    return EventParam.mk (String.ofList read.2) p.ty read.1) = _
  rw [h.paramWords_eq]
  change Except.ok (EventParam.mk (String.ofList p.name.toList) p.ty p.indexed) = _
  rw [String.ofList_toList]

/-- The text of a parameter can stand in a list. -/
theorem Readable.component {p : EventParam} (h : p.Readable) : Component p.text.toList := by
  rw [toList_text]
  have hne := List.append_ne_nil_of_left_ne_nil p.ty.chars_ne_nil (p.words.flatMap (' ' :: ·))
  have htrimmed := Text.trimmed_flatMap p.ty.solid_chars p.ty.chars_ne_nil h.solid
  have hwords : Bracketed (· ≠ ',') (p.words.flatMap (' ' :: ·)) := by
    refine .of_forall fun c hc => ?_
    obtain ⟨w, hw, hc⟩ := List.mem_flatMap.mp hc
    cases List.mem_cons.mp hc with
    | inl hc =>
      rw [hc]
      decide
    | inr hc =>
      obtain ⟨hopening, hclosing, hbare⟩ := bare_of_isNamePart ((h.words w hw).2 c hc)
      exact ⟨hopening, hclosing, hbare.1⟩
  exact ⟨hne, htrimmed, (p.ty.bracketed_chars.mono fun _ hc => hc.1).append hwords⟩

end EventParam

/-- The parameters of a list are read from their texts, with or without white space behind the
commas between them. -/
theorem paramList_join {gap : List Char} (hgap : Text.Blank gap) {ps : List EventParam}
    (h : ∀ p ∈ ps, p.Readable) :
    paramList ((',' :: gap).intercalate (ps.map fun p => p.text.toList)) = .ok ps := by
  have hcomponents : ∀ s ∈ ps.map fun p => p.text.toList, Component s :=
    List.forall_mem_map.mpr fun p hp => (h p hp).component
  have htrim := Text.trimmed_intercalate (',' :: gap) fun s hs =>
    And.intro (hcomponents s hs).ne_nil (hcomponents s hs).trimmed
  have hparts := components_intercalate gap hgap hcomponents
  rw [paramList, htrim.trim_eq, hparts]
  exact Outcome.mapM_map_eq_ok fun p hp => EventParam.ofChars_text (h p hp)

/-- The parameters of a list are read from their texts, with a comma and a blank between them. -/
theorem paramList_intercalate {ps : List EventParam} (h : ∀ p ∈ ps, p.Readable) :
    paramList (", ".intercalate (ps.map EventParam.text)).toList = .ok ps := by
  have hgap : Text.Blank [' '] := by decide
  rw [String.toList_intercalate, List.map_map]
  exact paramList_join hgap h

/-- A parameter of a type without a name. -/
def EventParam.unnamed (t : Ty) : EventParam := ⟨"", t, false⟩

/-- A parameter without a name is written as its type. -/
theorem EventParam.text_unnamed (t : Ty) : (unnamed t).text.toList = t.chars := by
  rw [toList_text]
  exact List.append_nil _

/-- Types without names are read as parameters. -/
theorem paramList_chars {types : List Ty} (hdeclared : Ty.faults? types = none)
    (hsized : ∀ t ∈ types, t.isSized = true) :
    paramList ([','].intercalate (types.map Ty.chars)) = .ok (types.map EventParam.unnamed) := by
  have hreadable : ∀ p ∈ types.map EventParam.unnamed, p.Readable :=
    List.forall_mem_map.mpr fun t ht =>
      ⟨Or.inl rfl, Ty.faults?_eq_none.mp hdeclared t ht, hsized t ht⟩
  have hgap : Text.Blank [] := by decide
  have hread := paramList_join hgap hreadable
  rw [List.map_map] at hread
  simpa only [Function.comp_def, EventParam.text_unnamed] using hread

/-- The brackets in the text of parameters match. -/
theorem bracketed_intercalate {ps : List EventParam} (h : ∀ p ∈ ps, p.Readable) :
    Bracketed (fun _ => True) (", ".intercalate (ps.map EventParam.text)).toList := by
  have hseparator : Bracketed (fun _ => True) ", ".toList :=
    .char rfl rfl trivial (.char rfl rfl trivial .nil)
  rw [String.toList_intercalate, List.map_map]
  exact Text.intercalate_closed .nil (fun _ _ => Bracketed.append) hseparator
    (List.forall_mem_map.mpr fun p hp => (h p hp).component.bracketed.mono fun _ _ => trivial)

end ContractToolkit.Interface
