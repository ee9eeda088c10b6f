import ContractToolkit.Proofs.Interface.AcceptedTexts
import ContractToolkit.Proofs.Interface.Documents

/-!
# The first words of declarations

A declaration is sorted by its first word, which ends at white space or at a
parenthesis, before it is read. The first word of a function is its keyword, or its
name where the keyword is left out. A function without keyword is therefore taken
for an event or an error when that is its name, and then it is no event or error
either, as nothing is left of it to be a name.
-/

namespace ContractToolkit.Interface

open Abi Outcome

/-! ### Names in front of parameters -/

/-- A text in which nothing but white space stands between a word and the parameters. -/
def Nameless (word : String) (s : List Char) : Prop :=
  ∃ gap inside, Text.Blank gap ∧ Text.trim s = word.toList ++ (gap ++ '(' :: inside)

namespace Method

/-- A function is read from a trimmed text as it is from the text. -/
theorem ofText_trim {text : String} {m : Method} (h : ofText text = .ok m) :
    ofText (String.ofList (Text.trim text.toList)) = .ok m := by
  obtain ⟨d, hparts, h⟩ := bind_eq_ok.mp h
  obtain ⟨inputs, hinputs, h⟩ := bind_eq_ok.mp h
  have htrimmed : Declaration.ofChars "function"
      (String.ofList (Text.trim text.toList)).toList = .ok d := by
    rw [String.toList_ofList]
    exact Declaration.ofChars_trim hparts
  refine bind_eq_ok.mpr ⟨d, htrimmed, bind_eq_ok.mpr ⟨inputs, hinputs, ?_⟩⟩
  -- From here on the text only occurs in the reports of faults.
  cases hsplit : splitAtWord? "returns".toList d.rest with
  | none =>
    rw [hsplit] at h
    dsimp only at h ⊢
    obtain ⟨mutability, hmodifiers, h⟩ := bind_eq_ok.mp h
    exact bind_eq_ok.mpr ⟨mutability, modifiers_eq_ok.mpr (modifiers_eq_ok.mp hmodifiers), h⟩
  | some parts =>
    rw [hsplit] at h
    dsimp only at h ⊢
    obtain ⟨mutability, hmodifiers, h⟩ := bind_eq_ok.mp h
    refine bind_eq_ok.mpr ⟨mutability, modifiers_eq_ok.mpr (modifiers_eq_ok.mp hmodifiers), ?_⟩
    split at h
    · exact h
    · cases h

/-- The name of a function stands in front of its parameters, and is an identifier. -/
theorem name_of_ofText {text : String} {m : Method} (h : ofText text = .ok m) :
    ∃ d, Declaration.ofChars "function" text.toList = .ok d ∧ d.name = m.name.toList ∧
      isIdentifier d.name = true := by
  obtain ⟨d, params, outputs, mutability, hparts, -, hdeclare⟩ := exists_declare_of_ofText h
  have hidentifier := (declared_iff.mp (declared_of_declare hdeclare)).1
  have hname : String.ofList d.name = m.name := by
    simp only [declare, test_eq_ok, pure_eq_ok] at hdeclare
    obtain ⟨-, -, rfl⟩ := hdeclare
    rfl
  have hchars : d.name = m.name.toList := by rw [← hname, String.toList_ofList]
  exact ⟨d, hparts, hchars, hchars ▸ hidentifier⟩

/-- Without its keyword the text of a function begins with the name, and only white space may stand
between that and the parameters. -/
theorem nameless_of_bare {text : String} {m : Method} (h : ofText text = .ok m)
    (hbare : ¬ Introduced "function" text.toList) : Nameless m.name text.toList := by
  obtain ⟨d, hparts, hname, hidentifier⟩ := name_of_ofText h
  obtain ⟨before, inside, htext, -, hbefore⟩ := Declaration.exists_text_of_ofChars hparts
  rw [withoutKeyword_eq hbare] at htext
  have hfirst : ∀ c ∈ before.head?, Text.isBlank c = false :=
    (htext ▸ Text.trimmed_trim text.toList).head_front
  obtain ⟨gap, hgap, hcut⟩ := Text.exists_eq_trim_append hfirst
  rw [← hbefore, hname] at hcut
  exact ⟨gap, inside, hgap, by rw [htext, hcut, List.append_assoc]⟩

end Method

/-- A declared event has an identifier in front of its parameters. -/
theorem Event.isIdentifier_of_ofText {text : String} {e : Event} (h : ofText text = .ok e) :
    ∃ d, Declaration.ofChars "event" text.toList = .ok d ∧ isIdentifier d.name = true := by
  obtain ⟨d, hparts, h⟩ := bind_eq_ok.mp h
  refine ⟨d, hparts, ?_⟩
  have hchecked (anonymous : Bool) (h : (paramList d.params >>= fun params =>
      declare (String.ofList d.name) params anonymous) = .ok e) : isIdentifier d.name = true := by
    obtain ⟨params, -, hdeclare⟩ := bind_eq_ok.mp h
    simp only [declare, test_eq_ok, checkName_eq_ok, String.toList_ofList] at hdeclare
    exact hdeclare.1
  split at h
  · exact hchecked false h
  · split at h
    · exact hchecked true h
    · cases h

/-- A declared error has an identifier in front of its parameters. -/
theorem CustomError.isIdentifier_of_ofText {text : String} {e : CustomError}
    (h : ofText text = .ok e) :
    ∃ d, Declaration.ofChars "error" text.toList = .ok d ∧ isIdentifier d.name = true := by
  obtain ⟨d, hparts, h⟩ := bind_eq_ok.mp h
  refine ⟨d, hparts, ?_⟩
  split at h
  · cases (test_eq_ok.mp h).1
  · obtain ⟨params, -, hdeclare⟩ := bind_eq_ok.mp h
    simp only [declare, test_eq_ok, checkName_eq_ok, String.toList_ofList] at hdeclare
    exact hdeclare.1

/-! ### What the first word decides -/

/-- A text that is a keyword with parameters has no name. -/
theorem Nameless.name_eq_nil {keyword : String} {s : List Char} {d : Declaration}
    (hs : Nameless keyword s) (h : Declaration.ofChars keyword s = .ok d) : d.name = [] := by
  obtain ⟨gap, inside, hgap, htext⟩ := hs
  have hparams : Text.trimStart (gap ++ '(' :: inside) = '(' :: inside := by
    rw [Text.trimStart_append hgap]
    exact List.dropWhile_cons_of_neg (by decide)
  have hbare : withoutKeyword keyword (Text.trim s) = '(' :: inside := by
    rw [htext]
    cases gap with
    | nil => exact withoutKeyword_append keyword inside (Or.inl rfl)
    | cons c rest =>
      have hblank := hgap c List.mem_cons_self
      exact (withoutKeyword_append keyword (rest ++ '(' :: inside) (Or.inr hblank)).trans hparams
  exact Declaration.name_eq_nil h hbare

/-- A reader that accepts only identifiers for names reads nothing from a text without a name. -/
theorem Nameless.not_read {keyword : String} {s : List Char} {α : Type}
    {result : Except DescriptorFault α} (hs : Nameless keyword s)
    (hread : ∀ a, result = .ok a →
      ∃ d, Declaration.ofChars keyword s = .ok d ∧ isIdentifier d.name = true) :
    ∃ fault, result = .error fault := by
  cases result with
  | error fault => exact ⟨fault, rfl⟩
  | ok a =>
    obtain ⟨d, hparts, hname⟩ := hread a rfl
    rw [hs.name_eq_nil hparts] at hname
    cases hname

/-- A trimmed text is nameless when the text is. -/
theorem Nameless.trim {keyword : String} {s : List Char} (h : Nameless keyword s) :
    Nameless keyword (Text.trim s) := by
  obtain ⟨gap, inside, hgap, htext⟩ := h
  exact ⟨gap, inside, hgap, by rw [(Text.trimmed_trim s).trim_eq, htext]⟩

/-- The first word of the text of a function: its keyword, or its name where that is left out. -/
def Method.leadingWord (m : Method) (text : String) : String :=
  if Introduced "function" text.toList then "function" else m.name

/-- The text of a function begins with its first word. -/
theorem Method.beginsWith {text : String} {m : Method} (h : ofText text = .ok m) :
    BeginsWith (m.leadingWord text).toList (Text.trim text.toList) := by
  rw [leadingWord]
  split
  · rename_i hintroduced
    exact ⟨by decide, by decide, hintroduced⟩
  · rename_i hbare
    obtain ⟨d, -, hname, hidentifier⟩ := name_of_ofText h
    obtain ⟨hne, hsolid, hopening⟩ := word_of_isIdentifier (hname ▸ hidentifier)
    obtain ⟨gap, inside, hgap, htext⟩ := nameless_of_bare h hbare
    refine ⟨⟨hne, hsolid⟩, hopening, ?_⟩
    cases gap with
    | nil => exact ⟨'(', inside, htext, Or.inl rfl⟩
    | cons c rest => exact ⟨c, _, htext, Or.inr (hgap c List.mem_cons_self)⟩

/-- The text of a function adds that function, if its first word is no keyword of another kind. -/
theorem addText_of_ofText {text : String} {m : Method} (h : Method.ofText text = .ok m)
    (hword : m.leadingWord text ∉ ["event", "error", "constructor"]) (i : Interface) :
    addText i text = .ok (i.addMethod m) := by
  have hother {keyword : String} (hkeyword : keyword ∈ ["event", "error", "constructor"]) :
      (m.leadingWord text).toList ≠ keyword.toList := by
    intro hsame
    rw [String.toList_inj] at hsame
    exact hword (hsame ▸ hkeyword)
  rw [addText_of_beginsWith (Method.beginsWith h)]
  dsimp only
  rw [if_neg (hother (by decide)), if_neg (hother (by decide)), if_neg (hother (by decide)),
    Method.ofText_trim h]
  rfl

/-- A function without keyword is reserved when its name is the keyword of an event or an error. -/
structure Method.Reserved (m : Method) (text : String) : Prop where
  /-- No keyword of a function introduces the text. -/
  bare : ¬ Introduced "function" text.toList
  /-- The name is a keyword. -/
  name : m.name = "event" ∨ m.name = "error"

/-- Of functions that are not called `constructor` all but the reserved ones are sorted as
functions. -/
theorem Method.leadingWord_not_mem {text : String} {m : Method} (hname : m.name ≠ "constructor")
    (hfree : ¬ m.Reserved text) : m.leadingWord text ∉ ["event", "error", "constructor"] := by
  rw [leadingWord]
  split
  · decide
  · rename_i hbare
    intro hmem
    simp only [List.mem_cons, List.not_mem_nil, or_false, ← or_assoc] at hmem
    exact hmem.elim (fun hkeyword => hfree ⟨hbare, hkeyword⟩) hname

/-- A reserved function is sorted as an event or as an error, and cannot be read as one. -/
theorem addText_of_reserved {text : String} {m : Method} (h : Method.ofText text = .ok m)
    (hreserved : m.Reserved text) (i : Interface) : ∃ fault, addText i text = .error fault := by
  obtain ⟨hbare, hname⟩ := hreserved
  have hnameless := (Method.nameless_of_bare h hbare).trim
  have hword : m.leadingWord text = m.name := if_neg hbare
  rw [addText_of_beginsWith (Method.beginsWith h), hword]
  dsimp only
  rw [← String.toList_ofList (l := Text.trim text.toList)] at hnameless
  generalize String.ofList (Text.trim text.toList) = trimmed at hnameless
  obtain hevent | herror := hname
  · rw [hevent] at hnameless ⊢
    obtain ⟨fault, hfault⟩ := hnameless.not_read fun _ => Event.isIdentifier_of_ofText
    exact ⟨fault, by rw [if_pos rfl, hfault]; rfl⟩
  · rw [herror] at hnameless ⊢
    obtain ⟨fault, hfault⟩ := hnameless.not_read fun _ => CustomError.isIdentifier_of_ofText
    exact ⟨fault, by rw [if_neg (by decide), if_pos rfl, hfault]; rfl⟩

end ContractToolkit.Interface
