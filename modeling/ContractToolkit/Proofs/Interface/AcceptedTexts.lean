import ContractToolkit.Proofs.Interface.DeclarationText
import ContractToolkit.Proofs.Interface.ParameterReading

/-!
# Which texts are accepted as declarations

Each kind of declaration documents what may follow its parameters: words and
return values of a function, the mark of an anonymous event, nothing behind an
error, words of a constructor. Events and errors accept nothing else. Functions
also accept several mutabilities, of which the last one counts, and return values
that no white space sets apart; constructors accept any words at all and look for
one of them. Names of parameters are checked nowhere.
-/

namespace ContractToolkit.Interface

open Abi

/-- Words that say where a function can be called from. -/
def visibilityWords : List (List Char) :=
  ["external".toList, "public".toList, "virtual".toList, "override".toList]

/-- Words that stand for a mutability. -/
def mutabilityWords : List (List Char) :=
  ["view".toList, "pure".toList, "nonpayable".toList, "payable".toList]

/-- The mutability that a word stands for. -/
def mutability? (word : List Char) : Option Mutability :=
  match Mutability.ofText (String.ofList word) with
  | .ok mutability => some mutability
  | .error _ => none

/-- The mutabilities among words. -/
def mutabilities (ws : List (List Char)) : List Mutability := ws.filterMap mutability?

/-- Words of which each says where a function can be called from or how it deals with the state. -/
def Known (ws : List (List Char)) : Prop :=
  ∀ w ∈ ws, w ∈ visibilityWords ∨ (mutability? w).isSome = true

instance (ws : List (List Char)) : Decidable (Known ws) := List.decidableBAll _ ws

/-- The words that stand for a mutability are the four of them. -/
theorem mem_of_mutability?_isSome {word : List Char} (h : (mutability? word).isSome = true) :
    word ∈ mutabilityWords := by
  have heq {name : String} (hname : String.ofList word = name) : word = name.toList := by
    rw [← hname, String.toList_ofList]
  simp only [mutabilityWords, List.mem_cons, List.not_mem_nil, or_false]
  rw [mutability?, Mutability.ofText] at h
  split_ifs at h with hread hwrite hpayable
  · exact hread.elim (fun hview => Or.inl (heq hview)) fun hpure => Or.inr (Or.inl (heq hpure))
  · exact Or.inr (Or.inr (Or.inl (heq hwrite)))
  · exact Or.inr (Or.inr (Or.inr (heq hpayable)))
  · cases h

/-- The words in front of the return values are accepted when they are known; of several
mutabilities the last one counts. -/
theorem modifiers_eq_ok {signature : String} {start m : Mutability} {ws : List (List Char)} :
    Method.modifiers signature start ws = .ok m ↔
      Known ws ∧ m = (mutabilities ws).getLastD start := by
  induction ws generalizing start with
  | nil =>
    refine ⟨fun h => ⟨fun w hw => absurd hw List.not_mem_nil, (Except.ok.inj h).symm⟩, ?_⟩
    rintro ⟨-, rfl⟩
    rfl
  | cons w rest ih =>
    rw [Method.modifiers, Known, List.forall_mem_cons, mutabilities]
    cases hword : Mutability.ofText (String.ofList w) with
    | ok found =>
      have hfound : mutability? w = some found := by rw [mutability?, hword]
      rw [List.filterMap_cons_some hfound, List.getLastD_cons, hfound]
      dsimp only
      rw [ih]
      simp [Known, mutabilities]
    | error fault =>
      have hnone : mutability? w = none := by rw [mutability?, hword]
      rw [List.filterMap_cons_none hnone, hnone]
      dsimp only
      have hvisible : (w = "external".toList ∨ w = "public".toList ∨ w = "virtual".toList ∨
          w = "override".toList) ↔ w ∈ visibilityWords := by
        simp only [visibilityWords, List.mem_cons, List.not_mem_nil, or_false]
      split
      · rename_i hlisted
        rw [ih]
        simp only [hvisible.mp hlisted, true_or, true_and]
        rfl
      · rename_i hlisted
        constructor
        · intro h
          cases h
        · rintro ⟨⟨hknown | hknown, -⟩, -⟩
          · exact absurd (hvisible.mpr hknown) hlisted
          · cases hknown

/-- A word that is found splits the text. -/
theorem eq_append_of_splitAtWord? {word s before after : List Char}
    (h : splitAtWord? word s = some (before, after)) : s = before ++ (word ++ after) := by
  induction s generalizing before with
  | nil =>
    rw [splitAtWord?] at h
    split at h
    · rename_i hempty
      cases h
      rw [List.isEmpty_iff.mp hempty]
      rfl
    · cases h
  | cons c rest ih =>
    rw [splitAtWord?] at h
    split at h
    · rename_i hprefix
      cases h
      obtain ⟨behind, hbehind⟩ := List.isPrefixOf_iff_prefix.mp hprefix
      rw [← hbehind, List.drop_left]
      rfl
    · obtain ⟨⟨front, back⟩, hrest, hparts⟩ := Option.map_eq_some_iff.mp h
      cases hparts
      exact congrArg (c :: ·) (ih hrest)

/-- What follows the parameters of a function: words, and return values in parentheses behind
`returns` if there are any. -/
inductive Trails : (rest modifiers : List Char) → (returns : Option (List Char)) → Prop
  | plain {modifiers : List Char} : Trails modifiers modifiers none
  | returning {modifiers gap body behind : List Char} (blank : Text.Blank gap)
      (last : Text.Blank behind) :
      Trails (modifiers ++ ("returns".toList ++ (gap ++ '(' :: (body ++ ')' :: behind)))) modifiers
        (some body)

/-- The letter that ends `returns` is in no known word. -/
theorem Known.not_mem {s : List Char} (h : Known (Text.words s)) : 's' ∉ s := by
  intro hmem
  have hblank : Text.isBlank 's' = false := by decide
  obtain ⟨w, hw, hletter⟩ := Text.exists_word_of_mem [] (Or.inr ⟨hmem, hblank⟩)
  have hlisted : w ∈ visibilityWords ++ mutabilityWords :=
    List.mem_append.mpr ((h w hw).imp_right mem_of_mutability?_isSome)
  have hnone : ∀ v ∈ visibilityWords ++ mutabilityWords, 's' ∉ v := by decide
  exact hnone w hlisted hletter

/-- The text inside the parentheses of return values. -/
theorem eq_of_returnsBody? {s body : List Char} (h : Method.returnsBody? s = some body) :
    s = '(' :: (body ++ [')']) := by
  rw [Method.returnsBody?.eq_def] at h
  split at h
  · rename_i rest
    split at h
    · rename_i hlast
      obtain ⟨front, rfl⟩ := List.getLast?_eq_some_iff.mp hlast
      rw [List.dropLast_concat] at h
      cases h
      rfl
    · cases h
  · cases h

namespace Trails

variable {rest modifiers others : List Char} {returns values : Option (List Char)}

/-- Return values in parentheses are found behind the first `returns`. -/
theorem of_returnsBody? {after body : List Char}
    (hsplit : splitAtWord? "returns".toList rest = some (modifiers, after))
    (hbody : Method.returnsBody? (Text.trim after) = some body) :
    Trails rest modifiers (some body) := by
  obtain ⟨gap, behind, hgap, hbehind, hafter⟩ := Text.exists_eq_append_trim after
  rw [eq_of_returnsBody? hbody] at hafter
  have hrest := eq_append_of_splitAtWord? hsplit
  have hparts : gap ++ '(' :: (body ++ [')']) ++ behind = gap ++ '(' :: (body ++ ')' :: behind) := by
    simp
  rw [hrest, hafter, hparts]
  exact .returning hgap hbehind

/-- The two forms of such a text. -/
theorem forms (h : Trails rest modifiers returns) :
    (rest = modifiers ∧ returns = none) ∨ ∃ gap body behind, Text.Blank gap ∧ Text.Blank behind ∧
      rest = modifiers ++ "return".toList ++ 's' :: (gap ++ '(' :: (body ++ ')' :: behind)) ∧
        returns = some body := by
  cases h with
  | plain => exact Or.inl ⟨rfl, rfl⟩
  | @returning modifiers gap body behind blank last =>
    exact Or.inr ⟨gap, body, behind, blank, last, by simp, rfl⟩

/-- A text is cut into known words and return values in one way only. -/
theorem unique (h : Trails rest modifiers returns) (hother : Trails rest others values)
    (hknown : 's' ∉ modifiers) (hothers : 's' ∉ others) :
    modifiers = others ∧ returns = values := by
  have hfront {front : List Char} (hnone : 's' ∉ front) : 's' ∉ front ++ "return".toList := by
    have hword : 's' ∉ "return".toList := by decide
    exact fun hmem => (List.mem_append.mp hmem).elim hnone hword
  have hopening {gap : List Char} (hgap : Text.Blank gap) : '(' ∉ gap := fun hmem =>
    absurd (hgap _ hmem) (by decide)
  have hclosing {gap : List Char} (hgap : Text.Blank gap) : ')' ∉ gap := fun hmem =>
    absurd (hgap _ hmem) (by decide)
  rcases h.forms with ⟨rfl, rfl⟩ | ⟨gap, body, behind, hgap, hbehind, hrest, rfl⟩
  · rcases hother.forms with ⟨rfl, rfl⟩ | ⟨_, _, _, -, -, rfl, -⟩
    · exact ⟨rfl, rfl⟩
    · exact absurd (List.mem_append_right _ List.mem_cons_self) hknown
  · rcases hother.forms with ⟨rfl, rfl⟩ | ⟨gap', body', behind', hgap', hbehind', hrest', rfl⟩
    · rw [hrest] at hothers
      exact absurd (List.mem_append_right _ List.mem_cons_self) hothers
    · obtain ⟨hwords, hclause⟩ := Text.append_cons_inj (hfront hknown) (hfront hothers)
        (hrest.symm.trans hrest')
      obtain ⟨-, hbodies⟩ := Text.append_cons_inj (hopening hgap) (hopening hgap') hclause
      -- The last parenthesis ends the return values, whatever stands inside of them.
      have hlast := Ty.splitAtLast?_append (hclosing hbehind) body
      rw [hbodies, Ty.splitAtLast?_append (hclosing hbehind')] at hlast
      cases hlast
      exact ⟨List.append_cancel_right hwords, rfl⟩

end Trails

/-- Words end with white space in front of what follows them, if there are any. -/
def SetApart (modifiers : List Char) : Prop := ∀ c ∈ modifiers.getLast?, Text.isBlank c = true

namespace Method

/-- How a function is read from the parts of its text. -/
structure ReadFrom (m : Method) (d : Declaration) (modifiers : List Char)
    (returns : Option (List Char)) : Prop where
  /-- The parameters are read. -/
  params : ∃ inputs, paramList d.params = .ok inputs
  /-- Words and return values follow them. -/
  trails : Trails d.rest modifiers returns
  /-- The words are known. -/
  known : Known (Text.words modifiers)
  /-- The last mutability among them counts. -/
  mutability : m.mutability = (mutabilities (Text.words modifiers)).getLastD .write
  /-- The return values are read. -/
  returned : ∀ body ∈ returns, ∃ outputs, paramList body = .ok outputs

/-- The mutability of a declared function is the one it was declared with. -/
theorem mutability_of_declare {name : String} {inputs outputs : List Param}
    {mutability : Mutability} {m : Method} (h : declare name inputs outputs mutability = .ok m) :
    m.mutability = mutability := by
  simp only [declare, Outcome.test_eq_ok, Outcome.pure_eq_ok] at h
  obtain ⟨-, -, rfl⟩ := h
  rfl

/-- A function that is accepted is read from the parts of its text. -/
theorem exists_readFrom {text : String} {m : Method} (h : ofText text = .ok m) :
    ∃ d modifiers returns, Declaration.ofChars "function" text.toList = .ok d ∧
      m.ReadFrom d modifiers returns := by
  obtain ⟨d, hparts, h⟩ := Outcome.bind_eq_ok.mp h
  obtain ⟨inputs, hinputs, h⟩ := Outcome.bind_eq_ok.mp h
  cases hsplit : splitAtWord? "returns".toList d.rest with
  | none =>
    rw [hsplit] at h
    dsimp only at h
    obtain ⟨mutability, hmodifiers, h⟩ := Outcome.bind_eq_ok.mp h
    obtain ⟨outputs, -, hdeclare⟩ := Outcome.bind_eq_ok.mp h
    obtain ⟨hknown, rfl⟩ := modifiers_eq_ok.mp hmodifiers
    exact ⟨d, d.rest, none, hparts, ⟨inputs, hinputs⟩, .plain, hknown,
      mutability_of_declare hdeclare, fun body hbody => absurd hbody (Option.not_mem_none body)⟩
  | some parts =>
    obtain ⟨modifiers, after⟩ := parts
    rw [hsplit] at h
    dsimp only at h
    obtain ⟨mutability, hmodifiers, h⟩ := Outcome.bind_eq_ok.mp h
    obtain ⟨hknown, rfl⟩ := modifiers_eq_ok.mp hmodifiers
    split at h
    · rename_i body hbody
      obtain ⟨outputs, houtputs, hdeclare⟩ := Outcome.bind_eq_ok.mp h
      refine ⟨d, modifiers, some body, hparts, ⟨inputs, hinputs⟩, .of_returnsBody? hsplit hbody,
        hknown, mutability_of_declare hdeclare, fun other hother => ⟨outputs, ?_⟩⟩
      rw [← Option.some.inj hother]
      exact houtputs
    · cases h

end Method

/-- What is accepted as an event has nothing but its mark behind the parameters. -/
theorem Event.exists_parts_of_ofText {text : String} {e : Event} (h : ofText text = .ok e) :
    ∃ d ps, Declaration.ofChars "event" text.toList = .ok d ∧ paramList d.params = .ok ps ∧
      (d.rest = [] ∨ d.rest = "anonymous".toList) := by
  obtain ⟨d, hparts, h⟩ := Outcome.bind_eq_ok.mp h
  by_cases hnothing : d.rest.isEmpty = true
  · rw [if_pos hnothing] at h
    obtain ⟨_, -, h⟩ := Outcome.bind_eq_ok.mp h
    obtain ⟨ps, hps, -⟩ := Outcome.bind_eq_ok.mp h
    exact ⟨d, ps, hparts, hps, Or.inl (List.isEmpty_iff.mp hnothing)⟩
  · rw [if_neg hnothing] at h
    split at h
    · rename_i hmark
      obtain ⟨_, -, h⟩ := Outcome.bind_eq_ok.mp h
      obtain ⟨ps, hps, -⟩ := Outcome.bind_eq_ok.mp h
      exact ⟨d, ps, hparts, hps, Or.inr hmark⟩
    · cases h

/-- What is accepted as an error has nothing behind the parameters. -/
theorem CustomError.exists_parts_of_ofText {text : String} {e : CustomError}
    (h : ofText text = .ok e) :
    ∃ d ps, Declaration.ofChars "error" text.toList = .ok d ∧ paramList d.params = .ok ps ∧
      d.rest = [] := by
  obtain ⟨d, hparts, h⟩ := Outcome.bind_eq_ok.mp h
  split at h
  · cases (Outcome.test_eq_ok.mp h).1
  · rename_i hnothing
    obtain ⟨ps, hps, -⟩ := Outcome.bind_eq_ok.mp h
    exact ⟨d, ps, hparts, hps, by simpa using hnothing⟩

/-- What is accepted as a constructor has no name in front of the parameters; of all words behind
them only `payable` counts. -/
theorem Constructor.exists_parts_of_ofText {text : String} {c : Constructor}
    (h : ofText text = .ok c) :
    ∃ d ps, Declaration.ofChars "constructor" text.toList = .ok d ∧ paramList d.params = .ok ps ∧
      d.name = [] ∧ (c.payable = true ↔ "payable".toList ∈ Text.words d.rest) := by
  obtain ⟨d, hparts, h⟩ := Outcome.bind_eq_ok.mp h
  split at h
  · cases (Outcome.test_eq_ok.mp h).1
  · rename_i hnameless
    obtain ⟨ps, hps, hdeclare⟩ := Outcome.bind_eq_ok.mp h
    simp only [declare, Outcome.test_eq_ok, Outcome.pure_eq_ok] at hdeclare
    obtain ⟨-, rfl⟩ := hdeclare
    refine ⟨d, ps, hparts, hps, by simpa using hnameless, ?_⟩
    simp only [List.any_eq_true, decide_eq_true_eq, exists_eq_right]

/-- Words behind the parameters of a constructor: at most one of them is `payable` or `nonpayable`,
and all others say where it can be called from. -/
structure ConstructorWords (ws : List (List Char)) : Prop where
  /-- The words are known. -/
  known : Known ws
  /-- None of them asks for reading only. -/
  writes : Mutability.read ∉ mutabilities ws
  /-- At most one of them is a mutability. -/
  single : (mutabilities ws).length ≤ 1

namespace Declaration

/-- A function in the documented form: parameters, known words with at most one mutability among
them, and at most one clause for return values. -/
structure DocumentedMethod (d : Declaration) : Prop where
  /-- The parameters are in their form. -/
  params : DocumentedParams d.params
  /-- Known words follow, and behind them the return values. -/
  trails : ∃ modifiers returns, Trails d.rest modifiers returns ∧ Known (Text.words modifiers) ∧
    (mutabilities (Text.words modifiers)).length ≤ 1 ∧
      ∀ body ∈ returns, SetApart modifiers ∧ DocumentedParams body

/-- An event in the documented form: parameters and nothing, or `anonymous`. -/
structure DocumentedEvent (d : Declaration) : Prop where
  /-- The parameters are in their form. -/
  params : DocumentedParams d.params
  /-- At most the mark follows. -/
  trails : d.rest = [] ∨ d.rest = "anonymous".toList

/-- An error in the documented form: parameters and nothing else. -/
structure DocumentedError (d : Declaration) : Prop where
  /-- The parameters are in their form. -/
  params : DocumentedParams d.params
  /-- Nothing follows. -/
  trails : d.rest = []

/-- A constructor in the documented form: parameters and words, but no name. -/
structure DocumentedConstructor (d : Declaration) : Prop where
  /-- There is no name. -/
  nameless : d.name = []
  /-- The parameters are in their form. -/
  params : DocumentedParams d.params
  /-- Words for constructors follow. -/
  trails : ConstructorWords (Text.words d.rest)

end Declaration

/-- A function that is read is in the documented form exactly when the words behind its types are
orderly, no two mutabilities contradict each other and the return values are set apart. -/
theorem Method.ReadFrom.documented_iff {m : Method} {d : Declaration} {modifiers : List Char}
    {returns : Option (List Char)} (h : m.ReadFrom d modifiers returns) :
    d.DocumentedMethod ↔ OrderlyParams d.params ∧
      (mutabilities (Text.words modifiers)).length ≤ 1 ∧
        ∀ body ∈ returns, SetApart modifiers ∧ OrderlyParams body := by
  obtain ⟨inputs, hinputs⟩ := h.params
  have hbodies (body : List Char) (hbody : body ∈ returns) :
      DocumentedParams body ↔ OrderlyParams body := by
    obtain ⟨outputs, houtputs⟩ := h.returned body hbody
    exact documentedParams_iff houtputs
  constructor
  · rintro ⟨hparams, others, values, htrails, hknown, hsingle, hreturned⟩
    obtain ⟨rfl, rfl⟩ := h.trails.unique htrails h.known.not_mem hknown.not_mem
    exact ⟨(documentedParams_iff hinputs).mp hparams, hsingle, fun body hbody =>
      ⟨(hreturned body hbody).1, (hbodies body hbody).mp (hreturned body hbody).2⟩⟩
  · rintro ⟨hparams, hsingle, hreturned⟩
    exact ⟨(documentedParams_iff hinputs).mpr hparams, modifiers, returns, h.trails, h.known,
      hsingle, fun body hbody =>
        ⟨(hreturned body hbody).1, (hbodies body hbody).mpr (hreturned body hbody).2⟩⟩

/-- Which of the accepted texts are in the documented form. Where the words behind the types are
orderly, all accepted events and errors are, functions as long as they have no two mutabilities and
their return values are set apart, and constructors as long as the words behind their parameters are
words for constructors; no others are. -/
theorem ofText_documented_iff (text : String) :
    (∀ m, Method.ofText text = .ok m → ∃ d modifiers returns,
      Declaration.ofChars "function" text.toList = .ok d ∧ m.ReadFrom d modifiers returns ∧
        (d.DocumentedMethod ↔ OrderlyParams d.params ∧
          (mutabilities (Text.words modifiers)).length ≤ 1 ∧
            ∀ body ∈ returns, SetApart modifiers ∧ OrderlyParams body)) ∧
      (∀ e, Event.ofText text = .ok e → ∃ d, Declaration.ofChars "event" text.toList = .ok d ∧
        (d.DocumentedEvent ↔ OrderlyParams d.params)) ∧
      (∀ e, CustomError.ofText text = .ok e → ∃ d,
        Declaration.ofChars "error" text.toList = .ok d ∧
          (d.DocumentedError ↔ OrderlyParams d.params)) ∧
      ∀ c, Constructor.ofText text = .ok c → ∃ d,
        Declaration.ofChars "constructor" text.toList = .ok d ∧
          (c.payable = true ↔ "payable".toList ∈ Text.words d.rest) ∧
            (d.DocumentedConstructor ↔
              OrderlyParams d.params ∧ ConstructorWords (Text.words d.rest)) := by
  refine ⟨fun m hm => ?method, fun e he => ?event, fun e he => ?error, fun c hc => ?constructor⟩
  case method =>
    obtain ⟨d, modifiers, returns, hparts, hread⟩ := Method.exists_readFrom hm
    exact ⟨d, modifiers, returns, hparts, hread, hread.documented_iff⟩
  case event =>
    obtain ⟨d, ps, hparts, hps, hrest⟩ := Event.exists_parts_of_ofText he
    have hparams := documentedParams_iff hps
    exact ⟨d, hparts, fun h => hparams.mp h.params, fun h => ⟨hparams.mpr h, hrest⟩⟩
  case error =>
    obtain ⟨d, ps, hparts, hps, hrest⟩ := CustomError.exists_parts_of_ofText he
    have hparams := documentedParams_iff hps
    exact ⟨d, hparts, fun h => hparams.mp h.params, fun h => ⟨hparams.mpr h, hrest⟩⟩
  case constructor =>
    obtain ⟨d, ps, hparts, hps, hname, hpayable⟩ := Constructor.exists_parts_of_ofText hc
    have hparams := documentedParams_iff hps
    exact ⟨d, hparts, hpayable, fun h => ⟨hparams.mp h.params, h.trails⟩,
      fun h => ⟨hname, hparams.mpr h.1, h.2⟩⟩

/-- One accepted text of each kind in the documented form. -/
theorem ofText_documented_iff_each :
    (∃ d, Declaration.ofChars "function"
        "function f(uint8[] calldata ids, bool) external view returns (bytes memory data)".toList =
          .ok d ∧ d.DocumentedMethod) ∧
      (∃ d, Declaration.ofChars "event" "event E(address indexed to) anonymous".toList = .ok d ∧
        d.DocumentedEvent) ∧
      (∃ d, Declaration.ofChars "error" "error E(uint256 id)".toList = .ok d ∧ d.DocumentedError) ∧
      ∃ d, Declaration.ofChars "constructor" "constructor(address payable to) public payable".toList =
        .ok d ∧ d.DocumentedConstructor := by
  refine ⟨?method, ?event, ?error, ?constructor⟩
  case method =>
    have hread : Method.ofText
        "function f(uint8[] calldata ids, bool) external view returns (bytes memory data)" =
      .ok ⟨"f", [⟨"ids", .array (.uint 8)⟩, ⟨"", .bool⟩], [⟨"data", .bytes⟩], .read⟩ := by
      decide +kernel
    obtain ⟨d, modifiers, returns, hd, hfrom, hiff⟩ := (ofText_documented_iff _).1 _ hread
    have hparts : Declaration.ofChars "function"
        "function f(uint8[] calldata ids, bool) external view returns (bytes memory data)".toList =
      .ok ⟨"f".toList, "uint8[] calldata ids, bool".toList,
        "external view returns (bytes memory data)".toList⟩ := by decide +kernel
    have htrails : Trails "external view returns (bytes memory data)".toList
      "external view ".toList (some "bytes memory data".toList) := .of_returnsBody? rfl rfl
    have hinputs : components (Text.trim "uint8[] calldata ids, bool".toList) =
      .ok ["uint8[] calldata ids".toList, "bool".toList] := rfl
    have houtputs : components (Text.trim "bytes memory data".toList) =
      .ok ["bytes memory data".toList] := rfl
    obtain rfl := Except.ok.inj (hparts.symm.trans hd)
    obtain ⟨rfl, rfl⟩ := htrails.unique hfrom.trails (by decide) hfrom.known.not_mem
    refine ⟨_, hd, hiff.mpr ⟨(orderlyParams_iff hinputs).mpr (by decide), by decide, ?_⟩⟩
    intro body hbody
    obtain rfl := Option.some.inj hbody
    refine ⟨fun c hc => ?_, (orderlyParams_iff houtputs).mpr (by decide)⟩
    obtain rfl := Option.some.inj hc
    decide
  case event =>
    have hread : Event.ofText "event E(address indexed to) anonymous" =
      .ok ⟨"E", [⟨"to", .address, true⟩], true⟩ := rfl
    obtain ⟨d, hd, hiff⟩ := (ofText_documented_iff _).2.1 _ hread
    have hparts : Declaration.ofChars "event" "event E(address indexed to) anonymous".toList =
      .ok ⟨"E".toList, "address indexed to".toList, "anonymous".toList⟩ := rfl
    have hparams : components (Text.trim "address indexed to".toList) =
      .ok ["address indexed to".toList] := rfl
    obtain rfl := Except.ok.inj (hparts.symm.trans hd)
    exact ⟨_, hd, hiff.mpr ((orderlyParams_iff hparams).mpr (by decide))⟩
  case error =>
    have hread : CustomError.ofText "error E(uint256 id)" = .ok ⟨"E", [⟨"id", .uint 256⟩]⟩ := rfl
    obtain ⟨d, hd, hiff⟩ := (ofText_documented_iff _).2.2.1 _ hread
    have hparts : Declaration.ofChars "error" "error E(uint256 id)".toList =
      .ok ⟨"E".toList, "uint256 id".toList, []⟩ := rfl
    have hparams : components (Text.trim "uint256 id".toList) = .ok ["uint256 id".toList] := rfl
    obtain rfl := Except.ok.inj (hparts.symm.trans hd)
    exact ⟨_, hd, hiff.mpr ((orderlyParams_iff hparams).mpr (by decide))⟩
  case constructor =>
    have hread : Constructor.ofText "constructor(address payable to) public payable" =
      .ok ⟨[⟨"to", .address⟩], true⟩ := rfl
    obtain ⟨d, hd, -, hiff⟩ := (ofText_documented_iff _).2.2.2 _ hread
    have hparts : Declaration.ofChars "constructor"
        "constructor(address payable to) public payable".toList =
      .ok ⟨[], "address payable to".toList, "public payable".toList⟩ := rfl
    have hparams : components (Text.trim "address payable to".toList) =
      .ok ["address payable to".toList] := rfl
    obtain rfl := Except.ok.inj (hparts.symm.trans hd)
    exact ⟨_, hd, hiff.mpr ⟨(orderlyParams_iff hparams).mpr (by decide),
      ⟨by decide, by decide, by decide⟩⟩⟩

/-- A constructor and a function whose words contradict each other are accepted: the one is payable
because one of its words says so, the other because the last of its words does. -/
theorem contradictions_accepted :
    (∃ d, Constructor.ofText "constructor() nonpayable payable" = .ok ⟨[], true⟩ ∧
      Declaration.ofChars "constructor" "constructor() nonpayable payable".toList = .ok d ∧
        ¬ d.DocumentedConstructor) ∧
      ∃ d, Method.ofText "function f() view payable" = .ok ⟨"f", [], [], .payable⟩ ∧
        Declaration.ofChars "function" "function f() view payable".toList = .ok d ∧
          ¬ d.DocumentedMethod := by
  refine ⟨⟨⟨[], [], "nonpayable payable".toList⟩, rfl, rfl, ?constructor⟩,
    ⟨⟨"f".toList, [], "view payable".toList⟩, rfl, rfl, ?method⟩⟩
  case constructor =>
    intro h
    exact absurd h.trails.single (by decide)
  case method =>
    have hfrom : Method.ReadFrom ⟨"f", [], [], .payable⟩
        ⟨"f".toList, [], "view payable".toList⟩ "view payable".toList none :=
      ⟨⟨[], rfl⟩, .plain, by decide, rfl, fun body hbody => absurd hbody (Option.not_mem_none body)⟩
    intro h
    exact absurd (hfrom.documented_iff.mp h).2.1 (by decide)

end ContractToolkit.Interface
