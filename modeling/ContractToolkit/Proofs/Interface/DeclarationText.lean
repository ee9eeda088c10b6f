import ContractToolkit.Proofs.Interface.Declared
import ContractToolkit.Proofs.Interface.ParameterText
import Mathlib.Data.List.TakeDrop
import Mathlib.Data.List.TakeWhile

/-!
# Declarations are read back from their texts

A function, an event, an error or a constructor is printed as a declaration: a
keyword, a name, parameters, and what is said behind them. Reading the text
gives the same member again, whatever its name is: the keyword in front is
taken off once, the parameters end where the parenthesis behind the name is
closed, and return values are looked for behind that parenthesis only.
-/

namespace ContractToolkit.Interface

open Abi Outcome

/-- The keyword is taken off where a parenthesis or white space follows. -/
theorem withoutKeyword_append (keyword : String) {c : Char} (s : List Char)
    (h : c = '(' ∨ Text.isBlank c = true) :
    withoutKeyword keyword (keyword.toList ++ c :: s) = Text.trimStart (c :: s) := by
  rw [withoutKeyword, Ty.after?_append]
  exact if_pos h

/-- A text that begins with a keyword, behind white space, and goes on with a parenthesis or white
space. -/
def Introduced (keyword : String) (s : List Char) : Prop :=
  ∃ c rest, Text.trim s = keyword.toList ++ c :: rest ∧ (c = '(' ∨ Text.isBlank c = true)

instance (keyword : String) (s : List Char) : Decidable (Introduced keyword s) :=
  decidable_of_iff ((Ty.after? keyword (Text.trim s)).any fun behind =>
      behind.head?.any fun c => c = '(' || Text.isBlank c) (by
    rw [Option.any_eq_true]
    constructor
    · rintro ⟨behind, hafter, hfirst⟩
      obtain ⟨c, hc, hends⟩ := (Option.any_eq_true _ _).mp hfirst
      obtain ⟨rest, rfl⟩ := List.head?_eq_some_iff.mp hc
      exact ⟨c, rest, Ty.after?_eq_some.mp hafter, by simpa using hends⟩
    · rintro ⟨c, rest, htext, hends⟩
      exact ⟨c :: rest, Ty.after?_eq_some.mpr htext, by simpa using hends⟩)

/-- Where no keyword introduces a text, none is taken off. -/
theorem withoutKeyword_eq {keyword : String} {s : List Char} (h : ¬ Introduced keyword s) :
    withoutKeyword keyword (Text.trim s) = Text.trim s := by
  rw [withoutKeyword]
  cases hafter : Ty.after? keyword (Text.trim s) with
  | none => rfl
  | some behind =>
    have htext := Ty.after?_eq_some.mp hafter
    cases behind with
    | nil => rfl
    | cons c rest => exact if_neg fun hc => h ⟨c, rest, htext, hc⟩

/-- The empty keyword changes nothing in a trimmed text. -/
theorem withoutKeyword_empty {s : List Char} (h : Text.Trimmed s) : withoutKeyword "" s = s := by
  have hafter : Ty.after? "" s = some s := Ty.after?_eq_some.mpr rfl
  rw [withoutKeyword, hafter]
  cases s with
  | nil => rfl
  | cons c rest =>
    dsimp only
    rw [h.trimStart_eq, ite_self]

/-- A declaration that its keyword does not introduce is read as if it had none. -/
theorem Declaration.ofChars_of_not_introduced {keyword : String} {s : List Char}
    (h : ¬ Introduced keyword s) : ofChars keyword s = ofChars "" s := by
  rw [ofChars, ofChars, withoutKeyword_eq h, withoutKeyword_empty (Text.trimmed_trim s)]

/-- A text without an opening parenthesis is no declaration. -/
theorem Declaration.ofChars_of_not_mem {keyword : String} {s : List Char}
    (h : '(' ∉ withoutKeyword keyword (Text.trim s)) :
    ofChars keyword s = .error (.missingParameters (String.ofList s)) := by
  have hbehind := List.dropWhile_eq_nil_iff.mpr (Text.bne_of_not_mem h)
  rw [ofChars, List.span_eq_takeWhile_dropWhile, hbehind]

/-- The first opening parenthesis of a text is where its front ends. -/
theorem span_opening {before : List Char} (h : '(' ∉ before) (inside : List Char) :
    (before ++ '(' :: inside).span (· != '(') = (before, '(' :: inside) := by
  have hpassed := Text.bne_of_not_mem h
  rw [List.span_eq_takeWhile_dropWhile, List.takeWhile_append_of_pos hpassed,
    List.dropWhile_append_of_pos hpassed]
  simp

/-- A text whose first opening parenthesis is not closed is no declaration. -/
theorem Declaration.ofChars_of_unclosed {keyword : String} {s before inside : List Char}
    (htext : withoutKeyword keyword (Text.trim s) = before ++ '(' :: inside)
    (hbefore : '(' ∉ before) (hinside : untilClosing? 0 inside = none) :
    ofChars keyword s = .error (.unbalancedParentheses (String.ofList s)) := by
  rw [ofChars, htext, span_opening hbefore]
  dsimp only
  rw [hinside]

/-- A declaration is cut at the first opening parenthesis and at the one that closes it. -/
theorem Declaration.ofChars_of_closed {keyword : String} {s before inside params rest : List Char}
    (htext : withoutKeyword keyword (Text.trim s) = before ++ '(' :: inside)
    (hbefore : '(' ∉ before) (hinside : untilClosing? 0 inside = some (params, rest)) :
    ofChars keyword s = .ok ⟨Text.trim before, params, Text.trim rest⟩ := by
  rw [ofChars, htext, span_opening hbefore]
  dsimp only
  rw [hinside]

/-- A declaration with a trimmed name is cut behind parameters whose brackets match. -/
theorem Declaration.ofChars_eq {keyword : String} {s name params rest : List Char}
    {outside : Char → Prop} (hs : Text.Trimmed s)
    (hkeyword : withoutKeyword keyword s = name ++ '(' :: (params ++ ')' :: rest))
    (hname : Text.Trimmed name) (hopening : '(' ∉ name) (hparams : Bracketed outside params) :
    ofChars keyword s = .ok ⟨name, params, Text.trim rest⟩ := by
  have hclosing : untilClosing? 0 (params ++ ')' :: rest) = some (params, rest) := by
    rw [hparams.untilClosing?_append, untilClosing?_cons]
    simp
  rw [← hs.trim_eq] at hkeyword
  rw [ofChars_of_closed hkeyword hopening hclosing, hname.trim_eq]

/-- What is read as a declaration is cut at the first parenthesis; the name stands in front. -/
theorem Declaration.exists_text_of_ofChars {keyword : String} {s : List Char} {d : Declaration}
    (h : ofChars keyword s = .ok d) : ∃ before inside,
      withoutKeyword keyword (Text.trim s) = before ++ '(' :: inside ∧ '(' ∉ before ∧
        d.name = Text.trim before := by
  by_cases hmem : '(' ∈ withoutKeyword keyword (Text.trim s)
  · obtain ⟨before, inside, htext, hbefore⟩ := List.eq_append_cons_of_mem hmem
    refine ⟨before, inside, htext, hbefore, ?_⟩
    cases hinside : untilClosing? 0 inside with
    | none =>
      rw [ofChars_of_unclosed htext hbefore hinside] at h
      cases h
    | some parts =>
      rw [ofChars_of_closed htext hbefore hinside] at h
      rw [← Except.ok.inj h]
  · rw [ofChars_of_not_mem hmem] at h
    cases h

/-- A declaration has no name where only parameters are left behind its keyword. -/
theorem Declaration.name_eq_nil {keyword : String} {s inside : List Char} {d : Declaration}
    (h : ofChars keyword s = .ok d)
    (hbare : withoutKeyword keyword (Text.trim s) = '(' :: inside) : d.name = [] := by
  obtain ⟨before, rest, htext, hopening, hname⟩ := exists_text_of_ofChars h
  have hcut : [] ++ '(' :: inside = before ++ '(' :: rest := hbare.symm.trans htext
  obtain ⟨rfl, -⟩ := Text.append_cons_inj List.not_mem_nil hopening hcut
  exact hname

/-- A declaration is read from a trimmed text as it is from the text. -/
theorem Declaration.ofChars_trim {keyword : String} {s : List Char} {d : Declaration}
    (h : ofChars keyword s = .ok d) : ofChars keyword (Text.trim s) = .ok d := by
  rw [ofChars] at h ⊢
  rw [(Text.trimmed_trim s).trim_eq]
  split at h
  · cases h
  · split at h
    · cases h
    · exact h

/-- A declaration begins with its keyword and ends where its parameters end, or behind them. -/
theorem Declaration.trimmed_text {keyword rest : List Char}
    (hkeyword : keyword ≠ [] ∧ Text.Solid keyword) (hrest : Text.Trimmed (')' :: rest))
    (params : List Char) : Text.Trimmed (keyword ++ (params ++ ')' :: rest)) := by
  rw [← List.append_assoc]
  exact hkeyword.2.trimmed.append hrest hkeyword.1 (List.cons_ne_nil _ _) params

/-- The parts of a declaration come back from its text, whatever identifier its name is. -/
theorem Declaration.ofChars_text (keyword : String) {name params rest : List Char}
    {outside : Char → Prop} (hkeyword : keyword.toList ≠ [] ∧ Text.Solid keyword.toList)
    (hname : isIdentifier name = true) (hparams : Bracketed outside params)
    (hrest : Text.Trimmed (')' :: rest)) :
    ofChars keyword (keyword.toList ++ ' ' :: (name ++ '(' :: (params ++ ')' :: rest))) =
      .ok ⟨name, params, Text.trim rest⟩ := by
  obtain ⟨hne, hsolid, hopening⟩ := word_of_isIdentifier hname
  have hblank : Text.isBlank ' ' = true := by decide
  have hbehind : Text.Trimmed (name ++ '(' :: (params ++ ')' :: rest)) :=
    trimmed_text ⟨hne, hsolid⟩ hrest ('(' :: params)
  have htext : Text.Trimmed
      (keyword.toList ++ ' ' :: (name ++ '(' :: (params ++ ')' :: rest))) := by
    have hends := trimmed_text hkeyword hrest (' ' :: (name ++ '(' :: params))
    simpa using hends
  have hafter := withoutKeyword_append keyword (name ++ '(' :: (params ++ ')' :: rest))
    (Or.inr hblank)
  have hgap : Text.Blank [' '] := by decide
  have hstart := Text.trimStart_append hgap (name ++ '(' :: (params ++ ')' :: rest))
  rw [List.singleton_append, hbehind.trimStart_eq] at hstart
  rw [hstart] at hafter
  exact ofChars_eq htext hafter hsolid.trimmed hopening hparams

/-- The parts of a declaration without a name come back from its text. -/
theorem Declaration.ofChars_nameless (keyword : String) {params rest : List Char}
    {outside : Char → Prop} (hkeyword : keyword.toList ≠ [] ∧ Text.Solid keyword.toList)
    (hparams : Bracketed outside params) (hrest : Text.Trimmed (')' :: rest)) :
    ofChars keyword (keyword.toList ++ '(' :: (params ++ ')' :: rest)) =
      .ok ⟨[], params, Text.trim rest⟩ := by
  have htext : Text.Trimmed (keyword.toList ++ '(' :: (params ++ ')' :: rest)) :=
    trimmed_text hkeyword hrest ('(' :: params)
  have hafter := withoutKeyword_append keyword (params ++ ')' :: rest) (Or.inl rfl)
  exact ofChars_eq htext hafter (by decide) List.not_mem_nil hparams

/-- Parameters of functions, constructors and errors that their texts give again: the names are
readable, and the lengths in the types are sizes. -/
def Readable (ps : List Param) : Prop := ∀ p ∈ ps, ReadableName p.name ∧ p.ty.isSized = true

instance (ps : List Param) : Decidable (Readable ps) :=
  inferInstanceAs (Decidable (∀ p ∈ ps, _))

/-- Readable parameters of types that can be declared come back one by one. -/
theorem Readable.unmarked {ps : List Param} (h : Readable ps)
    (hdeclared : Ty.faults? (tys ps) = none) :
    ∀ p ∈ ps.map Param.unmarked, p.Readable := by
  have hfaults := Ty.faults?_eq_none.mp hdeclared
  refine List.forall_mem_map.mpr fun p hp => ?_
  obtain ⟨hname, hsized⟩ := h p hp
  exact ⟨hname, hfaults p.ty (List.mem_map_of_mem hp), hsized⟩

/-- The text of parameters is that of parameters without marks. -/
theorem paramsText_eq (ps : List Param) :
    paramsText ps = ", ".intercalate ((ps.map Param.unmarked).map EventParam.text) := by
  rw [paramsText, List.map_map]
  exact congrArg _ (List.map_congr_left fun p _ => p.text_unmarked.symm)

/-- Parameters are read from their text. -/
theorem Readable.paramList_eq {ps : List Param} (h : Readable ps)
    (hdeclared : Ty.faults? (tys ps) = none) :
    paramList (paramsText ps).toList = .ok (ps.map Param.unmarked) := by
  rw [paramsText_eq]
  exact paramList_intercalate (h.unmarked hdeclared)

/-- The brackets in the text of parameters match. -/
theorem Readable.bracketed {ps : List Param} (h : Readable ps)
    (hdeclared : Ty.faults? (tys ps) = none) :
    Bracketed (fun _ => True) (paramsText ps).toList := by
  rw [paramsText_eq]
  exact bracketed_intercalate (h.unmarked hdeclared)

namespace CustomError

theorem toList_text (e : CustomError) :
    e.text.toList =
      "error".toList ++ ' ' :: (e.name.toList ++ '(' :: ((paramsText e.inputs).toList ++ [')'])) := by
  simp [text]

/-- An error is read from its text. -/
theorem ofText_text {e : CustomError} (hdeclared : e.Declared) (hreadable : Readable e.inputs) :
    ofText e.text = .ok e := by
  obtain ⟨hname, hinputs⟩ := declared_iff.mp hdeclared
  have hends : Text.Trimmed [')'] := by decide
  have hparts := Declaration.ofChars_text "error" (by decide) hname (hreadable.bracketed hinputs)
    hends
  rw [ofText, toList_text, hparts]
  change (do
    let params ← paramList (paramsText e.inputs).toList
    declare (String.ofList e.name.toList) (params.map EventParam.plain)) = _
  rw [hreadable.paramList_eq hinputs]
  change declare (String.ofList e.name.toList) ((e.inputs.map Param.unmarked).map _) = _
  rw [String.ofList_toList, map_plain_unmarked]
  exact hdeclared

end CustomError

namespace Constructor

/-- The text behind the parameters. -/
def behind (c : Constructor) : List Char := (if c.payable then " payable" else "").toList

theorem toList_text (c : Constructor) :
    c.text.toList =
      "constructor".toList ++ '(' :: ((paramsText c.inputs).toList ++ ')' :: c.behind) := by
  simp [text, behind]

/-- No white space is at the end of a declaration. -/
theorem trimmed_behind (c : Constructor) : Text.Trimmed (')' :: c.behind) := by
  rw [behind]
  cases c.payable <;> decide

/-- The words behind the parameters say whether a deployment may carry value. -/
theorem payable_behind (c : Constructor) :
    (Text.words (Text.trim c.behind)).any (· = "payable".toList) = c.payable := by
  rw [behind]
  cases c.payable <;> decide

/-- A constructor is read from its text, which gives no name. -/
theorem ofText_text {c : Constructor} (hdeclared : c.Declared) (hreadable : Readable c.inputs) :
    ofText c.text = .ok c := by
  have hinputs := declared_iff.mp hdeclared
  have hparts := Declaration.ofChars_nameless "constructor" (by decide)
    (hreadable.bracketed hinputs) c.trimmed_behind
  rw [ofText, toList_text, hparts]
  change (do
    let params ← paramList (paramsText c.inputs).toList
    declare (params.map EventParam.plain) ((Text.words (Text.trim c.behind)).any _)) = _
  rw [hreadable.paramList_eq hinputs, c.payable_behind]
  change declare ((c.inputs.map Param.unmarked).map _) c.payable = _
  rw [map_plain_unmarked]
  exact hdeclared

end Constructor

namespace Event

/-- An event whose parameters its text gives again: the names are readable, and the lengths in the
types are sizes. -/
def Readable (e : Event) : Prop := ∀ p ∈ e.params, ReadableName p.name ∧ p.ty.isSized = true

instance (e : Event) : Decidable e.Readable := inferInstanceAs (Decidable (∀ p ∈ e.params, _))

/-- The parameters of a declared event come back one by one. -/
theorem Readable.params {e : Event} (h : e.Readable) (hdeclared : e.Declared) :
    ∀ p ∈ e.params, p.Readable := by
  intro p hp
  obtain ⟨hname, hsized⟩ := h p hp
  exact ⟨hname, hdeclared.fault?_eq_none hp, hsized⟩

/-- The text behind the parameters. -/
def behind (e : Event) : List Char := (if e.anonymous then " anonymous" else "").toList

theorem toList_text (e : Event) :
    e.text.toList = "event".toList ++ ' ' :: (e.name.toList ++
      '(' :: ((", ".intercalate (e.params.map EventParam.text)).toList ++ ')' :: e.behind)) := by
  simp [text, behind]

/-- No white space is at the end of a declaration. -/
theorem trimmed_behind (e : Event) : Text.Trimmed (')' :: e.behind) := by
  rw [behind]
  cases e.anonymous <;> decide

/-- An event is read from its text. -/
theorem ofText_text {e : Event} (hdeclared : e.Declared) (hreadable : e.Readable) :
    ofText e.text = .ok e := by
  have hname := (declared_iff.mp hdeclared).1
  have hps := hreadable.params hdeclared
  have hparts := Declaration.ofChars_text "event" (by decide) hname
    (bracketed_intercalate hps) e.trimmed_behind
  have hdeclare : (do
      let params ← paramList (", ".intercalate (e.params.map EventParam.text)).toList
      declare (String.ofList e.name.toList) params e.anonymous) = .ok e := by
    rw [paramList_intercalate hps, String.ofList_toList]
    exact hdeclared
  rw [ofText, toList_text, hparts, behind]
  -- The parameters are read in each branch for the text behind them.
  cases hanonymous : e.anonymous with
  | true =>
    rw [hanonymous] at hdeclare
    exact hdeclare
  | false =>
    rw [hanonymous] at hdeclare
    exact hdeclare

end Event

namespace Mutability

/-- What a declaration says about a mutability behind the parameters. -/
def suffix : Mutability → String
  | .read => " view"
  | .write => ""
  | .payable => " payable"

/-- The same in front of the return values. -/
def lead : Mutability → String
  | .read => "view "
  | .write => ""
  | .payable => "payable "

/-- Without return values, the words behind the parameters are those of the mutability. -/
theorem modifiers_suffix (m : Mutability) (signature : String) :
    splitAtWord? "returns".toList (Text.trim m.suffix.toList) = none ∧
      Method.modifiers signature .write (Text.words (Text.trim m.suffix.toList)) = .ok m := by
  cases m with
  | read => exact ⟨rfl, rfl⟩
  | write => exact ⟨rfl, rfl⟩
  | payable => exact ⟨rfl, rfl⟩

/-- The clause for return values is found behind the words of the mutability. -/
theorem splitAtWord?_lead (m : Mutability) {clause : List Char} (hclause : Text.Trimmed clause)
    (hne : clause ≠ []) :
    splitAtWord? "returns".toList
        (Text.trim (m.suffix.toList ++ (" returns ".toList ++ clause))) =
      some (m.lead.toList, ' ' :: clause) := by
  have hgap : Text.Blank [' '] := by decide
  have htrim (first middle : List Char) (hfirst : Text.Solid first) (hfirstNe : first ≠ []) :
      Text.trim (' ' :: (first ++ middle ++ clause)) = first ++ middle ++ clause :=
    (hfirst.trimmed.append hclause hfirstNe hne middle).trim_append [' '] hgap
  -- Without a word for the mutability, the trimmed text begins with the clause itself.
  cases m with
  | read =>
    change splitAtWord? _ (Text.trim (' ' :: ("view".toList ++ " returns ".toList ++ clause))) = _
    rw [htrim _ _ (by decide) (by decide)]
    rfl
  | write =>
    change splitAtWord? _ (Text.trim (' ' :: ("returns".toList ++ " ".toList ++ clause))) = _
    rw [htrim _ _ (by decide) (by decide)]
    rfl
  | payable =>
    change splitAtWord? _ (Text.trim (' ' :: ("payable".toList ++ " returns ".toList ++ clause))) = _
    rw [htrim _ _ (by decide) (by decide)]
    rfl

/-- The words in front of the return values are those of the mutability. -/
theorem modifiers_lead (m : Mutability) (signature : String) :
    Method.modifiers signature .write (Text.words m.lead.toList) = .ok m := by
  cases m with
  | read => rfl
  | write => rfl
  | payable => rfl

end Mutability

namespace Method

/-- The text of the return values. -/
def clause (m : Method) : List Char := '(' :: ((paramsText m.outputs).toList ++ [')'])

/-- The text behind the parameters. -/
def behind (m : Method) : List Char :=
  m.mutability.suffix.toList ++ if m.outputs.isEmpty then [] else " returns ".toList ++ m.clause

theorem toList_text (m : Method) :
    m.text.toList = "function".toList ++ ' ' :: (m.name.toList ++
      '(' :: ((paramsText m.inputs).toList ++ ')' :: m.behind)) := by
  have htext : m.text = "function " ++ m.name ++ "(" ++ paramsText m.inputs ++ ")" ++
      m.mutability.suffix ++
      (if m.outputs.isEmpty then "" else " returns (" ++ paramsText m.outputs ++ ")") := by
    cases m with
    | mk name inputs outputs mutability => cases mutability <;> rfl
  rw [htext, behind, clause]
  by_cases houtputs : m.outputs.isEmpty = true
  · simp [houtputs]
  · simp [houtputs]

theorem trimmed_clause (m : Method) : Text.Trimmed m.clause := by
  have hopening : Text.Trimmed ['('] := by decide
  have hclosing : Text.Trimmed [')'] := by decide
  exact hopening.append hclosing (List.cons_ne_nil _ _) (List.cons_ne_nil _ _)
    (paramsText m.outputs).toList

/-- No white space is at the end of a declaration. -/
theorem trimmed_behind (m : Method) : Text.Trimmed (')' :: m.behind) := by
  rw [behind]
  by_cases houtputs : m.outputs.isEmpty = true
  · rw [if_pos houtputs, List.append_nil]
    cases m.mutability <;> decide
  · have hclosing : Text.Trimmed [')'] := by decide
    have hends := hclosing.append m.trimmed_clause (List.cons_ne_nil _ _) (List.cons_ne_nil _ _)
      (m.mutability.suffix.toList ++ " returns ".toList)
    rw [if_neg houtputs]
    simpa using hends

/-- The parameters are between the parentheses of the clause. -/
theorem returnsBody?_clause (m : Method) :
    returnsBody? (Text.trim (' ' :: m.clause)) = some (paramsText m.outputs).toList := by
  have htrim : Text.trim (' ' :: m.clause) = m.clause :=
    m.trimmed_clause.trim_append [' '] (by decide)
  rw [htrim, clause, returnsBody?, List.getLast?_concat, if_pos rfl, List.dropLast_concat]

/-- A function is read from its text. -/
theorem ofText_text {m : Method} (hdeclared : m.Declared) (hinputs : Readable m.inputs)
    (houtputs : Readable m.outputs) : ofText m.text = .ok m := by
  obtain ⟨hinputTypes, houtputTypes⟩ := hdeclared.faults?_eq_none
  have hname := (declared_iff.mp hdeclared).1
  have hparts := Declaration.ofChars_text "function" (by decide) hname
    (hinputs.bracketed hinputTypes) m.trimmed_behind
  have hdeclare : declare (String.ofList m.name.toList)
      ((m.inputs.map Param.unmarked).map EventParam.plain)
      ((m.outputs.map Param.unmarked).map EventParam.plain) m.mutability = .ok m := by
    rw [String.ofList_toList, map_plain_unmarked, map_plain_unmarked]
    exact hdeclared
  rw [ofText, toList_text, hparts]
  dsimp only [Bind.bind, Except.bind]
  rw [hinputs.paramList_eq hinputTypes]
  -- The text has no clause for return values where there are none.
  by_cases hnone : m.outputs.isEmpty = true
  · obtain ⟨hsplit, hmutability⟩ := m.mutability.modifiers_suffix m.text
    have hbehind : m.behind = m.mutability.suffix.toList := by
      rw [behind, if_pos hnone, List.append_nil]
    rw [hbehind]
    dsimp only
    rw [hsplit]
    dsimp only
    rw [hmutability]
    rw [List.isEmpty_iff.mp hnone] at hdeclare
    exact hdeclare
  · have hsplit := m.mutability.splitAtWord?_lead m.trimmed_clause (List.cons_ne_nil _ _)
    have hbehind : m.behind = m.mutability.suffix.toList ++ (" returns ".toList ++ m.clause) := by
      rw [behind, if_neg hnone]
    rw [hbehind]
    dsimp only
    rw [hsplit]
    dsimp only
    rw [m.mutability.modifiers_lead m.text]
    dsimp only
    rw [m.returnsBody?_clause]
    dsimp only
    rw [houtputs.paramList_eq houtputTypes]
    exact hdeclare

end Method

/-- Functions, events and errors are read from their texts: whatever has been declared, with names
of parameters that say nothing else about them, comes back as it was. -/
theorem declarations_read_back :
    (∀ m : Method, m.Declared → Readable m.inputs → Readable m.outputs →
      Method.ofText m.text = .ok m) ∧
    (∀ e : Event, e.Declared → e.Readable → Event.ofText e.text = .ok e) ∧
    (∀ e : CustomError, e.Declared → Readable e.inputs → CustomError.ofText e.text = .ok e) :=
  ⟨fun _ => Method.ofText_text, fun _ => Event.ofText_text, fun _ => CustomError.ofText_text⟩

/-- The keywords themselves as names: of a function with a sequence of tuples that is called
`returns`, of an anonymous event, and of an error. -/
theorem declarations_read_back_keywords :
    let pair : Ty := .tuple [.array (.uint 8), .tuple []]
    let m : Method := ⟨"function", [⟨"returns", .fixedArray pair 3⟩, ⟨"", .bytes⟩],
      [⟨"event", .array (.fixedBytes 4)⟩, ⟨"", pair⟩], .read⟩
    let e : Event := ⟨"event", [⟨"anonymous", .string, true⟩, ⟨"", pair, false⟩,
      ⟨"$x_1", .address, true⟩], true⟩
    let d : CustomError := ⟨"error", [⟨"error", .int 16⟩]⟩
    Method.ofText m.text = .ok m ∧ Event.ofText e.text = .ok e ∧ CustomError.ofText d.text = .ok d :=
  ⟨declarations_read_back.1 _ rfl (by decide) (by decide),
    declarations_read_back.2.1 _ rfl (by decide),
    declarations_read_back.2.2 _ rfl (by decide)⟩

end ContractToolkit.Interface
