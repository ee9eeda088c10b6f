import ContractToolkit.Interface.Loader
import ContractToolkit.Proofs.Interface.DeclarationText

/-!
# Documents and declarations load the same interface

The members of an interface as a JSON document and as declarations in text. In
the document the type of a parameter is its canonical text, except that a tuple
is written as the word `tuple`, with the suffixes of the sequences around it,
and has its components in a list beside. Both sources add the same members in
the same order.
-/

namespace ContractToolkit.Interface

open Abi

mutual

/-- The fields of a parameter in a document: what says its type, with suffixes of sequences behind
it, around the other fields. -/
def typeFields (others : List (String × Json)) (suffix : List Char) : Ty → List (String × Json)
  | .array elem => typeFields others ('[' :: ']' :: suffix) elem
  | .fixedArray elem length =>
    typeFields others ('[' :: (Text.decimal length ++ ']' :: suffix)) elem
  | .tuple types =>
    ("components", .array (componentItems types)) ::
      (others ++ [("type", .string (String.ofList ("tuple".toList ++ suffix)))])
  | t => others ++ [("type", .string (String.ofList (t.chars ++ suffix)))]

/-- The components of a tuple in a document. -/
def componentItems : List Ty → List Json
  | [] => []
  | t :: rest => .object (typeFields [("name", .string "")] [] t) :: componentItems rest

end

/-- A word is written as such. -/
theorem typeFields_word {t : Ty} (hword : t.isWord = true) (others : List (String × Json))
    (suffix : List Char) :
    typeFields others suffix t =
      others ++ [("type", .string (String.ofList (t.chars ++ suffix)))] := by
  cases t with
  | address => rfl
  | uint bits => rfl
  | int bits => rfl
  | bool => rfl
  | bytes => rfl
  | fixedBytes size => rfl
  | string => rfl
  | array elem => cases hword
  | fixedArray elem length => cases hword
  | tuple types => cases hword

/-- The fields that say the type are under two keys only. -/
theorem field?_typeFields {key : String} (hcomponents : key ≠ "components") (htype : key ≠ "type")
    (others : List (String × Json)) (suffix : List Char) (t : Ty) :
    Json.field? key (.object (typeFields others suffix t)) = Json.field? key (.object others) := by
  have hlast (text : String) :
      Json.field? key (.object (others ++ [("type", .string text)])) =
        Json.field? key (.object others) := by
    rw [Json.field?, Json.field?, List.find?_append, List.find?_singleton]
    simp [htype.symm]
  induction t generalizing suffix with
  | word t hword =>
    rw [typeFields_word hword]
    exact hlast _
  | array elem ih => exact ih _
  | fixedArray elem length ih => exact ih _
  | tuple types ih =>
    have hfirst : ("components" : String) ≠ key := hcomponents.symm
    rw [← hlast (String.ofList ("tuple".toList ++ suffix))]
    simp [typeFields, Json.field?, hfirst]

/-- Fields that do not say a type. -/
def Untyped (fields : List (String × Json)) : Prop :=
  ∀ key ∈ fields.map Prod.fst, key ≠ "components" ∧ key ≠ "type"

/-- A name does not say a type. -/
theorem untyped_name (name : String) : Untyped [("name", .string name)] := by
  change ∀ key ∈ ["name"], key ≠ "components" ∧ key ≠ "type"
  decide

/-- A mark and a name do not say a type. -/
theorem untyped_mark (indexed : Bool) (name : String) :
    Untyped [("indexed", .bool indexed), ("name", .string name)] := by
  change ∀ key ∈ ["indexed", "name"], key ≠ "components" ∧ key ≠ "type"
  decide

/-- The text under `type` stands behind the other fields. -/
theorem Untyped.find?_type {others : List (String × Json)} (h : Untyped others) (text : String) :
    (((others ++ [("type", Json.string text)]).find? (·.1 = "type")).map (·.2)).bind Json.text? =
      some text := by
  have hothers : others.find? (·.1 = "type") = none := by
    rw [List.find?_eq_none]
    intro field hfield
    simpa using (h field.1 (List.mem_map_of_mem hfield)).2
  rw [List.find?_append, hothers]
  rfl

/-- Components have their types when each of them has. -/
theorem jsonTypes_componentItems {types : List Ty}
    (h : ∀ t ∈ types, jsonType (.object (typeFields [("name", .string "")] [] t)) = .ok t) :
    jsonTypes (componentItems types) = .ok types := by
  induction types with
  | nil => rfl
  | cons t rest ih =>
    have hfirst := h t List.mem_cons_self
    have hrest := ih fun u hu => h u (List.mem_cons_of_mem _ hu)
    rw [componentItems, jsonTypes, hfirst, hrest]
    rfl

/-- The type of a parameter is what its canonical text declares, with the suffixes behind it. -/
theorem jsonType_typeFields {t : Ty} (hdeclared : t.fault? = none) (hsized : t.isSized = true)
    {others : List (String × Json)} (hothers : Untyped others) (suffix : List Char) :
    jsonType (.object (typeFields others suffix t)) = Ty.ofChars (t.chars ++ suffix) := by
  -- The suffix grows on the way to the innermost type, which decides how the text begins.
  induction t generalizing others suffix with
  | word t hword =>
    obtain ⟨first, rest, hchars, hkeyword, -⟩ := (Ty.names_chars hword).exists_eq_cons
    have hafter : Ty.after? "tuple" (t.chars ++ suffix) = none := by
      rw [hchars]
      exact Ty.after?_tuple_eq_none hkeyword (rest ++ suffix)
    rw [typeFields_word hword, jsonType, hothers.find?_type]
    dsimp only
    rw [String.toList_ofList, hafter]
    dsimp only
    rw [Ty.ofText, String.toList_ofList]
  | array elem ih =>
    rw [Ty.chars_array, List.append_assoc]
    exact ih hdeclared hsized hothers ('[' :: ']' :: suffix)
  | fixedArray elem length ih =>
    have helem := (Ty.fixedArray_fault?_eq_none.mp hdeclared).2
    rw [Ty.isSized, Bool.and_eq_true] at hsized
    have hread := ih helem hsized.2 hothers ('[' :: (Text.decimal length ++ ']' :: suffix))
    rw [Ty.chars_fixedArray]
    simpa [typeFields] using hread
  | tuple types ih =>
    have hfaults := Ty.faults?_eq_none.mp hdeclared
    have hsizes := Ty.allSized_iff.mp hsized
    -- The components are types of their own; with them the tuple is printed and read once more.
    have hcomponents : jsonTypes (componentItems types) = .ok types := by
      refine jsonTypes_componentItems fun t ht => ?_
      rw [ih t ht (hfaults t ht) (hsizes t ht) (untyped_name "") [], List.append_nil]
      exact Ty.ofChars_chars (hfaults t ht) (hsizes t ht)
    have hkey : ¬ decide ("components" = "type") = true := by decide
    have hfind : (("components", Json.array (componentItems types)) ::
        (others ++ [("type", Json.string (String.ofList ("tuple".toList ++ suffix)))])).find?
          (·.1 = "type") =
        (others ++ [("type", Json.string (String.ofList ("tuple".toList ++ suffix)))]).find?
          (·.1 = "type") := List.find?_cons_of_neg hkey
    rw [typeFields, jsonType, hfind, hothers.find?_type]
    dsimp only
    rw [String.toList_ofList, Ty.after?_append, componentTypes?, if_pos rfl, hcomponents]

/-- A parameter in a document. -/
def Param.json (p : Param) : Json := .object (typeFields [("name", .string p.name)] [] p.ty)

/-- A parameter of an event in a document. -/
def EventParam.json (p : EventParam) : Json :=
  .object (typeFields [("indexed", .bool p.indexed), ("name", .string p.name)] [] p.ty)

/-- A parameter is read from the fields that say its type, with its name and its mark among the
others. -/
theorem jsonParam_typeFields {t : Ty} {others : List (String × Json)} {name : String} {mark : Bool}
    (hdeclared : t.fault? = none) (hsized : t.isSized = true) (hothers : Untyped others)
    (hname : textField? (.object others) "name" = some name)
    (hmark : flag (.object others) "indexed" = mark) :
    jsonParam (.object (typeFields others [] t)) = .ok ⟨name, t, mark⟩ := by
  have hty := jsonType_typeFields hdeclared hsized hothers []
  rw [List.append_nil, Ty.ofChars_chars hdeclared hsized] at hty
  have hfound : textField? (.object (typeFields others [] t)) "name" = some name := by
    rwa [textField?, field?_typeFields (by decide) (by decide), ← textField?]
  have hmarked : flag (.object (typeFields others [] t)) "indexed" = mark := by
    rwa [flag, field?_typeFields (by decide) (by decide), ← flag]
  rw [jsonParam, hty, hfound, hmarked]
  rfl

/-- The member of a document that is a constructor. -/
def Constructor.json (c : Constructor) : Json :=
  .object [("inputs", .array (c.inputs.map Param.json)),
    ("stateMutability", .string (if c.payable then "payable" else "nonpayable")),
    ("type", .string "constructor")]

/-- The name of a mutability in a document. -/
def Mutability.json : Mutability → Json
  | .read => .string "view"
  | .write => .string "nonpayable"
  | .payable => .string "payable"

/-- The member of a document that is a function. -/
def Method.json (m : Method) : Json :=
  .object [("inputs", .array (m.inputs.map Param.json)), ("name", .string m.name),
    ("outputs", .array (m.outputs.map Param.json)), ("stateMutability", m.mutability.json),
    ("type", .string "function")]

/-- The member of a document that is an event. -/
def Event.json (e : Event) : Json :=
  .object [("anonymous", .bool e.anonymous), ("inputs", .array (e.params.map EventParam.json)),
    ("name", .string e.name), ("type", .string "event")]

/-- The member of a document that is an error. -/
def CustomError.json (e : CustomError) : Json :=
  .object [("inputs", .array (e.inputs.map Param.json)), ("name", .string e.name),
    ("type", .string "error")]

/-- Parameters are read from a document. -/
theorem Readable.mapM_jsonParam {ps : List Param} (h : Readable ps)
    (hdeclared : Ty.faults? (tys ps) = none) :
    (ps.map Param.json).mapM jsonParam = .ok (ps.map Param.unmarked) := by
  have hfaults := Ty.faults?_eq_none.mp hdeclared
  have hread (p : Param) (hp : p ∈ ps) : jsonParam p.json = .ok p.unmarked :=
    jsonParam_typeFields (hfaults p.ty (List.mem_map_of_mem hp)) (h p hp).2 (untyped_name p.name)
      rfl rfl
  exact Outcome.mapM_map_eq_map hread

/-- The name of a declared member is found in a document. -/
theorem memberName_eq {kind : String} {item : Json} {name : String}
    (hitem : textField? item "name" = some name) (hname : isIdentifier name.toList = true) :
    memberName kind item = .ok name := by
  rw [memberName, hitem]
  dsimp only
  rw [isEmpty_of_isIdentifier hname, if_neg Bool.false_ne_true]

/-- A function is added from a document. -/
theorem addMember_method {m : Method} (hdeclared : m.Declared) (hinputs : Readable m.inputs)
    (houtputs : Readable m.outputs) (i : Interface) :
    addMember i m.json = .ok (i.addMethod m) := by
  obtain ⟨hinputTypes, houtputTypes⟩ := hdeclared.faults?_eq_none
  have hkind : textField? m.json "type" = some "function" := rfl
  have hname : memberName "Function" m.json = .ok m.name :=
    memberName_eq rfl (Method.declared_iff.mp hdeclared).1
  have hmutability : memberMutability m.json = .ok m.mutability := by
    cases m with
    | mk name inputs outputs mutability => cases mutability <;> rfl
  have hin : jsonParams m.json "inputs" = .ok (m.inputs.map Param.unmarked) :=
    hinputs.mapM_jsonParam hinputTypes
  have hout : jsonParams m.json "outputs" = .ok (m.outputs.map Param.unmarked) :=
    houtputs.mapM_jsonParam houtputTypes
  rw [addMember, hkind]
  change (do
    let name ← memberName "Function" m.json
    let inputs ← jsonParams m.json "inputs"
    let outputs ← jsonParams m.json "outputs"
    let mutability ← memberMutability m.json
    return i.addMethod (← Method.declare name (inputs.map EventParam.plain)
      (outputs.map EventParam.plain) mutability)) = _
  rw [hname, hin, hout, hmutability]
  dsimp only [Bind.bind, Except.bind]
  rw [map_plain_unmarked, map_plain_unmarked, hdeclared]
  rfl

/-- A constructor is added from a document. -/
theorem addMember_constructor {c : Constructor} (hdeclared : c.Declared)
    (hreadable : Readable c.inputs) (i : Interface) :
    addMember i c.json = .ok (i.setConstructor c) := by
  have hkind : textField? c.json "type" = some "constructor" := rfl
  have hin : jsonParams c.json "inputs" = .ok (c.inputs.map Param.unmarked) :=
    hreadable.mapM_jsonParam (Constructor.declared_iff.mp hdeclared)
  have hmutability : memberMutability c.json = .ok (if c.payable then .payable else .write) := by
    cases c with
    | mk inputs payable => cases payable <;> rfl
  have hpayable : decide ((if c.payable then Mutability.payable else .write) = .payable) =
      c.payable := by
    cases c.payable <;> rfl
  rw [addMember, hkind]
  change (do
    let inputs ← jsonParams c.json "inputs"
    let mutability ← memberMutability c.json
    return i.setConstructor
      (← Constructor.declare (inputs.map EventParam.plain) (mutability = Mutability.payable))) = _
  rw [hin, hmutability]
  dsimp only [Bind.bind, Except.bind]
  rw [map_plain_unmarked, hpayable, hdeclared]
  rfl

/-- An event is added from a document. -/
theorem addMember_event {e : Event} (hdeclared : e.Declared) (hreadable : e.Readable)
    (i : Interface) : addMember i e.json = .ok (i.addEvent e) := by
  have hkind : textField? e.json "type" = some "event" := rfl
  have hname : memberName "Event" e.json = .ok e.name :=
    memberName_eq rfl (Event.declared_iff.mp hdeclared).1
  have hread (p : EventParam) (hp : p ∈ e.params) : jsonParam p.json = .ok p :=
    let hreads := hreadable.params hdeclared p hp
    jsonParam_typeFields hreads.declared hreads.sized (untyped_mark p.indexed p.name) rfl rfl
  have hparams : jsonParams e.json "inputs" = .ok e.params := Outcome.mapM_map_eq_ok hread
  have hanonymous : flag e.json "anonymous" = e.anonymous := rfl
  rw [addMember, hkind]
  change (do
    let name ← memberName "Event" e.json
    let params ← jsonParams e.json "inputs"
    return i.addEvent (← Event.declare name params (flag e.json "anonymous"))) = _
  rw [hname, hparams, hanonymous]
  dsimp only [Bind.bind, Except.bind]
  rw [hdeclared]
  rfl

/-- An error is added from a document. -/
theorem addMember_error {e : CustomError} (hdeclared : e.Declared) (hreadable : Readable e.inputs)
    (i : Interface) : addMember i e.json = .ok (i.addError e) := by
  obtain ⟨hidentifier, htypes⟩ := CustomError.declared_iff.mp hdeclared
  have hkind : textField? e.json "type" = some "error" := rfl
  have hname : memberName "Error" e.json = .ok e.name := memberName_eq rfl hidentifier
  have hin : jsonParams e.json "inputs" = .ok (e.inputs.map Param.unmarked) :=
    hreadable.mapM_jsonParam htypes
  rw [addMember, hkind]
  change (do
    let name ← memberName "Error" e.json
    let inputs ← jsonParams e.json "inputs"
    return i.addError (← CustomError.declare name (inputs.map EventParam.plain))) = _
  rw [hname, hin]
  dsimp only [Bind.bind, Except.bind]
  rw [map_plain_unmarked, hdeclared]
  rfl

/-- The keyword of a declaration ends at a parenthesis or at white space. -/
theorem keyword_append {word : List Char} (hword : word ≠ [] ∧ Text.Solid word)
    (hopening : '(' ∉ word) {c : Char} (hc : c = '(' ∨ Text.isBlank c = true) (s : List Char) :
    keyword (word ++ c :: s) = word := by
  have hbefore := Text.bne_of_not_mem hopening
  have hwords : Text.words (word ++ c :: s) = Text.wordsFrom word.reverse (c :: s) := by
    rw [Text.words, Text.wordsFrom_append hword.2, List.append_nil]
  rw [keyword, hwords, Text.wordsFrom]
  by_cases hblank : Text.isBlank c = true
  · have hcurrent : word.reverse.isEmpty = false := by simpa using hword.1
    rw [if_pos hblank, hcurrent, if_neg Bool.false_ne_true, List.headD_cons, List.reverse_reverse]
    have htake : (word ++ []).takeWhile (· != '(') = word ++ [].takeWhile (· != '(') :=
      List.takeWhile_append_of_pos hbefore
    simpa using htake
  · have hparen : c = '(' := hc.resolve_right hblank
    obtain ⟨more, hmore⟩ := Text.headD_wordsFrom (List.cons_ne_nil c word.reverse) s
    rw [if_neg hblank, hmore, List.reverse_cons, List.reverse_reverse, List.append_assoc,
      List.takeWhile_append_of_pos hbefore, hparen]
    simp

/-- A text begins with a word that ends at a parenthesis or at white space. -/
def BeginsWith (word s : List Char) : Prop :=
  (word ≠ [] ∧ Text.Solid word) ∧ '(' ∉ word ∧
    ∃ c rest, s = word ++ c :: rest ∧ (c = '(' ∨ Text.isBlank c = true)

/-- The word with which a text begins is its keyword. -/
theorem BeginsWith.keyword_eq {word s : List Char} (h : BeginsWith word s) : keyword s = word := by
  obtain ⟨hword, hopening, c, rest, rfl, hc⟩ := h
  exact keyword_append hword hopening hc rest

/-- A text is sorted by the word with which it begins before it is read. -/
theorem addText_of_beginsWith {text : String} {word : List Char}
    (h : BeginsWith word (Text.trim text.toList)) (i : Interface) :
    addText i text =
      let trimmed := String.ofList (Text.trim text.toList)
      if word = "event".toList then (Event.ofText trimmed).map i.addEvent
      else if word = "error".toList then (CustomError.ofText trimmed).map i.addError
      else if word = "constructor".toList then (Constructor.ofText trimmed).map i.setConstructor
      else (Method.ofText trimmed).map i.addMethod := by
  have hempty : (Text.trim text.toList).isEmpty = false := by
    obtain ⟨-, -, c, rest, htext, -⟩ := h
    simp [htext]
  rw [addText, hempty, h.keyword_eq]
  generalize String.ofList (Text.trim text.toList) = trimmed
  rfl

/-- A declaration is read as the member that its keyword stands for. -/
theorem addText_eq {text : String} {word body rest : List Char} {c : Char}
    (htext : text.toList = word ++ c :: (body ++ ')' :: rest))
    (hword : word ≠ [] ∧ Text.Solid word) (hopening : '(' ∉ word)
    (hc : c = '(' ∨ Text.isBlank c = true) (hrest : Text.Trimmed (')' :: rest)) (i : Interface) :
    addText i text =
      if word = "event".toList then (Event.ofText text).map i.addEvent
      else if word = "error".toList then (CustomError.ofText text).map i.addError
      else if word = "constructor".toList then (Constructor.ofText text).map i.setConstructor
      else (Method.ofText text).map i.addMethod := by
  have htrimmed : Text.Trimmed text.toList := by
    rw [htext]
    exact Declaration.trimmed_text hword hrest (c :: body)
  have hbegins : BeginsWith word (Text.trim text.toList) := by
    rw [htrimmed.trim_eq]
    exact ⟨hword, hopening, c, _, htext, hc⟩
  rw [addText_of_beginsWith hbegins, htrimmed.trim_eq, String.ofList_toList]

/-- A member of an interface. -/
inductive Member where
  /-- The constructor. -/
  | constructor (c : Constructor)
  /-- A function. -/
  | method (m : Method)
  /-- An event. -/
  | event (e : Event)
  /-- An error. -/
  | error (e : CustomError)

namespace Member

/-- The check that a member has passed. -/
def Declared : Member → Prop
  | constructor c => c.Declared
  | method m => m.Declared
  | event e => e.Declared
  | error e => e.Declared

/-- Whether the parameters of a member are given again by its text. -/
def Readable : Member → Prop
  | constructor c => Interface.Readable c.inputs
  | method m => Interface.Readable m.inputs ∧ Interface.Readable m.outputs
  | event e => e.Readable
  | error e => Interface.Readable e.inputs

instance : (d : Member) → Decidable d.Readable
  | constructor c => inferInstanceAs (Decidable (Interface.Readable c.inputs))
  | method m =>
    inferInstanceAs (Decidable (Interface.Readable m.inputs ∧ Interface.Readable m.outputs))
  | event e => inferInstanceAs (Decidable e.Readable)
  | error e => inferInstanceAs (Decidable (Interface.Readable e.inputs))

/-- The member in a document. -/
def json : Member → Json
  | constructor c => c.json
  | method m => m.json
  | event e => e.json
  | error e => e.json

/-- The declaration of the member as text. -/
def text : Member → String
  | constructor c => c.text
  | method m => m.text
  | event e => e.text
  | error e => e.text

/-- The interface with the member. -/
def addTo (i : Interface) : Member → Interface
  | constructor c => i.setConstructor c
  | method m => i.addMethod m
  | event e => i.addEvent e
  | error e => i.addError e

/-- A member is added from a document. -/
theorem addMember_json {d : Member} (hdeclared : d.Declared) (hreadable : d.Readable)
    (i : Interface) : addMember i d.json = .ok (d.addTo i) := by
  cases d with
  | constructor c => exact addMember_constructor hdeclared hreadable i
  | method m => exact addMember_method hdeclared hreadable.1 hreadable.2 i
  | event e => exact addMember_event hdeclared hreadable i
  | error e => exact addMember_error hdeclared hreadable i

/-- A member is added from its text. -/
theorem addText_text {d : Member} (hdeclared : d.Declared) (hreadable : d.Readable)
    (i : Interface) : addText i d.text = .ok (d.addTo i) := by
  have hblank : Text.isBlank ' ' = true := by decide
  cases d with
  | constructor c =>
    have hadd := addText_eq c.toList_text (by decide) (by decide) (Or.inl rfl) c.trimmed_behind i
    rw [text, hadd, if_neg (by decide), if_neg (by decide), if_pos rfl,
      Constructor.ofText_text hdeclared hreadable]
    rfl
  | method m =>
    have htext : m.text.toList = "function".toList ++ ' ' :: (m.name.toList ++
        '(' :: (paramsText m.inputs).toList ++ ')' :: m.behind) := by
      rw [m.toList_text, List.append_assoc, List.cons_append]
    have hadd := addText_eq htext (by decide) (by decide) (Or.inr hblank) m.trimmed_behind i
    rw [text, hadd, if_neg (by decide), if_neg (by decide), if_neg (by decide),
      Method.ofText_text hdeclared hreadable.1 hreadable.2]
    rfl
  | event e =>
    have htext : e.text.toList = "event".toList ++ ' ' :: (e.name.toList ++
        '(' :: (", ".intercalate (e.params.map EventParam.text)).toList ++ ')' :: e.behind) := by
      rw [e.toList_text, List.append_assoc, List.cons_append]
    have hadd := addText_eq htext (by decide) (by decide) (Or.inr hblank) e.trimmed_behind i
    rw [text, hadd, if_pos rfl, Event.ofText_text hdeclared hreadable]
    rfl
  | error e =>
    have htext : e.text.toList = "error".toList ++ ' ' :: (e.name.toList ++
        '(' :: (paramsText e.inputs).toList ++ ')' :: []) := by
      rw [e.toList_text, List.append_assoc, List.cons_append]
    have hadd := addText_eq htext (by decide) (by decide) (Or.inr hblank) (by decide) i
    rw [text, hadd, if_neg (by decide), if_pos rfl, CustomError.ofText_text hdeclared hreadable]
    rfl

end Member

/-- The document of members and their declarations as text load the same interface: that of the
members added in order. -/
theorem loaders_agree {members : List Member} (hdeclared : ∀ d ∈ members, d.Declared)
    (hreadable : ∀ d ∈ members, d.Readable) :
    ofJson (.array (members.map Member.json)) = .ok (members.foldl Member.addTo empty) ∧
      ofTexts (members.map Member.text) = .ok (members.foldl Member.addTo empty) := by
  constructor
  · exact Outcome.foldlM_map_eq_ok
      (fun i d hd => Member.addMember_json (hdeclared d hd) (hreadable d hd) i) empty
  · exact Outcome.foldlM_map_eq_ok
      (fun i d hd => Member.addText_text (hdeclared d hd) (hreadable d hd) i) empty

/-- A function called `constructor` with tuples in nested sequences is replaced by a later one of
the same signature, from either source. -/
theorem loaders_agree_replaced :
    let point : Ty := .tuple [.uint 8, .tuple [.string, .array .bool]]
    let c : Constructor := ⟨[⟨"owner", .address⟩], true⟩
    let earlier : Method := ⟨"constructor", [⟨"at", .array (.fixedArray point 2)⟩], [], .payable⟩
    let later : Method := ⟨"constructor", [⟨"", .array (.fixedArray point 2)⟩], [⟨"", point⟩], .read⟩
    let e : Event := ⟨"event", [⟨"who", .address, true⟩, ⟨"", .array point, false⟩], true⟩
    let d : CustomError := ⟨"error", [⟨"error", .int 16⟩]⟩
    let members : List Member := [.method earlier, .constructor c, .event e, .error d, .method later]
    ofJson (.array (members.map Member.json)) = .ok ⟨some c, [later], [e], [d]⟩ ∧
      ofTexts (members.map Member.text) = .ok ⟨some c, [later], [e], [d]⟩ :=
  loaders_agree
    (List.forall_mem_cons.mpr ⟨rfl, List.forall_mem_cons.mpr ⟨rfl, List.forall_mem_cons.mpr ⟨rfl,
      List.forall_mem_cons.mpr ⟨rfl, List.forall_mem_singleton.mpr rfl⟩⟩⟩⟩)
    (by decide)

end ContractToolkit.Interface
