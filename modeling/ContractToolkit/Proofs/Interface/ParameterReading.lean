import ContractToolkit.Interface.Declaration
import ContractToolkit.Proofs.Outcome

/-!
# Parameters are read component by component

A list of parameters is read when each of its components is: the first word of a
component has to be a type, and the words behind it have to be marks, locations
and at most one name. The documented form `type [indexed] [location] [name]` asks
for more: none of these words is repeated, they come in this order, and the name
is an identifier.
-/

namespace ContractToolkit.Interface

open Abi

/-- A parameter is read when its first word is a type and the words behind it are accepted. -/
theorem EventParam.ofChars_eq_ok {component : List Char} {p : EventParam} :
    ofChars component = .ok p ↔ Ty.ofChars (firstWord component).1 = .ok p.ty ∧
      ∃ name, p.name = String.ofList name ∧
        paramWords component false none (Text.words (firstWord component).2) =
          .ok (p.indexed, name) := by
  simp only [ofChars, Outcome.bind_eq_ok, Outcome.pure_eq_ok, Prod.exists]
  constructor
  · rintro ⟨t, htype, indexed, name, hwords, rfl⟩
    exact ⟨htype, name, rfl, hwords⟩
  · obtain ⟨_, t, indexed⟩ := p
    rintro ⟨htype, name, rfl, hwords⟩
    exact ⟨t, htype, indexed, name, hwords, rfl⟩

/-- A list of parameters is read when it is cut into components and each of them is read. -/
theorem paramList_eq_ok {s : List Char} {ps : List EventParam} :
    paramList s = .ok ps ↔ ∃ members : List (List Char × EventParam),
      components (Text.trim s) = .ok (members.map Prod.fst) ∧ ps = members.map Prod.snd ∧
        ∀ m ∈ members, EventParam.ofChars m.1 = .ok m.2 := by
  simp only [paramList, Outcome.bind_eq_ok, Outcome.mapM_eq_ok]
  constructor
  · rintro ⟨_, hparts, members, rfl, rfl, hread⟩
    exact ⟨members, hparts, rfl, hread⟩
  · rintro ⟨members, hparts, rfl, hread⟩
    exact ⟨_, hparts, members, rfl, rfl, hread⟩

/-- The place of a word behind a type: the mark comes first, then a location, then the name. -/
def wordPlace (word : List Char) : Nat :=
  if word = "indexed".toList then 0 else if isLocation word then 1 else 2

/-- A list of words, each of them optional in its place, in the documented order. -/
def InPlaces (ws : List (List Char)) : Prop :=
  ∃ mark location name : Option (List Char), ws = mark.toList ++ (location.toList ++ name.toList) ∧
    (∀ w ∈ mark, wordPlace w = 0) ∧ (∀ w ∈ location, wordPlace w = 1) ∧
      ∀ w ∈ name, wordPlace w = 2 ∧ isIdentifier w = true

/-- Words of which no mark and no location stands behind a word of its own or of a later place, and
whose names are identifiers. -/
structure Orderly (ws : List (List Char)) : Prop where
  /-- Only earlier words stand in front of a mark or a location. -/
  ordered : ws.Pairwise fun a b => wordPlace b < 2 → wordPlace a < wordPlace b
  /-- The names are identifiers. -/
  named : ∀ w ∈ ws, wordPlace w = 2 → isIdentifier w = true

instance (ws : List (List Char)) : Decidable (Orderly ws) :=
  decidable_of_iff ((ws.Pairwise fun a b => wordPlace b < 2 → wordPlace a < wordPlace b) ∧
      ∀ w ∈ ws, wordPlace w = 2 → isIdentifier w = true)
    ⟨fun h => ⟨h.1, h.2⟩, fun h => ⟨h.ordered, h.named⟩⟩

theorem wordPlace_cases (word : List Char) :
    wordPlace word = 0 ∨ wordPlace word = 1 ∨ wordPlace word = 2 := by
  rw [wordPlace]
  split_ifs <;> simp

/-- At most one of the words that are accepted behind a type is a name. -/
theorem length_names_of_paramWords {component : List Char} {indexed : Bool}
    {name : Option (List Char)} {ws : List (List Char)} {result : Bool × List Char}
    (h : paramWords component indexed name ws = .ok result) :
    name.toList.length + (ws.filter (wordPlace · = 2)).length ≤ 1 := by
  induction ws generalizing indexed name with
  | nil => cases name <;> simp
  | cons w rest ih =>
    rw [paramWords.eq_def] at h
    dsimp only at h
    split at h
    · rename_i hmark
      have hplace : wordPlace w ≠ 2 := by
        rw [wordPlace, if_pos hmark]
        decide
      simpa [hplace] using ih h
    · rename_i hmark
      split at h
      · rename_i hlocation
        have hplace : wordPlace w ≠ 2 := by
          rw [wordPlace, if_neg hmark, if_pos hlocation]
          decide
        simpa [hplace] using ih h
      · rename_i hlocation
        have hplace : wordPlace w = 2 := by rw [wordPlace, if_neg hmark, if_neg hlocation]
        split at h
        · have hlater := ih h
          simp only [Option.toList_some, List.length_singleton] at hlater
          simp only [Option.toList_none, List.length_nil, hplace, decide_true,
            List.filter_cons_of_pos, List.length_cons]
          omega
        · cases h

/-- Optional words in the documented order are orderly. -/
theorem InPlaces.orderly {ws : List (List Char)} (h : InPlaces ws) : Orderly ws := by
  obtain ⟨mark, location, name, rfl, hmark, hlocation, hname⟩ := h
  have hsingle {R : List Char → List Char → Prop} (word : Option (List Char)) :
      word.toList.Pairwise R := by
    cases word <;> simp
  refine ⟨?ordered, ?named⟩
  case ordered =>
    refine List.pairwise_append.mpr ⟨hsingle mark, List.pairwise_append.mpr
      ⟨hsingle location, hsingle name, ?_⟩, ?_⟩
    · intro a _ b hb hearly
      rw [(hname b (Option.mem_toList.mp hb)).1] at hearly
      exact absurd hearly (Nat.lt_irrefl 2)
    · intro a ha b hb hearly
      rw [hmark a (Option.mem_toList.mp ha)]
      cases List.mem_append.mp hb with
      | inl hb =>
        rw [hlocation b (Option.mem_toList.mp hb)]
        exact Nat.one_pos
      | inr hb =>
        rw [(hname b (Option.mem_toList.mp hb)).1]
        exact Nat.two_pos
  case named =>
    intro w hw hplace
    rcases List.mem_append.mp hw with hw | hw
    · rw [hmark w (Option.mem_toList.mp hw)] at hplace
      cases hplace
    · rcases List.mem_append.mp hw with hw | hw
      · rw [hlocation w (Option.mem_toList.mp hw)] at hplace
        cases hplace
      · exact (hname w (Option.mem_toList.mp hw)).2

/-- Orderly words with at most one name among them are optional words in the documented order. -/
theorem Orderly.inPlaces {ws : List (List Char)} (h : Orderly ws)
    (hnames : (ws.filter (wordPlace · = 2)).length ≤ 1) : InPlaces ws := by
  induction ws with
  | nil => exact ⟨none, none, none, rfl, by simp, by simp, by simp⟩
  | cons w rest ih =>
    obtain ⟨hfirst, hordered⟩ := List.pairwise_cons.mp h.ordered
    have hrest : Orderly rest := ⟨hordered, fun v hv => h.named v (List.mem_cons_of_mem _ hv)⟩
    have hfewer : (rest.filter (wordPlace · = 2)).length ≤ 1 :=
      Nat.le_trans ((List.sublist_cons_self w rest).filter _).length_le hnames
    obtain ⟨mark, location, name, rfl, hmark, hlocation, hname⟩ := ih hrest hfewer
    -- The word leaves no room behind it for an earlier word or another one of its place.
    have hnone {word : Option (List Char)} {place : Nat} (hword : ∀ v ∈ word, wordPlace v = place)
        (hlater : ∀ v ∈ word, v ∈ mark.toList ++ (location.toList ++ name.toList))
        (hearly : place < 2) (hplace : place ≤ wordPlace w) : word = none := by
      refine Option.eq_none_iff_forall_not_mem.mpr fun v hv => ?_
      have hbehind := hfirst v (hlater v hv) (hword v hv ▸ hearly)
      rw [hword v hv] at hbehind
      exact absurd hbehind (Nat.not_lt_of_le hplace)
    have hmarkLater : ∀ v ∈ mark, v ∈ mark.toList ++ (location.toList ++ name.toList) :=
      fun v hv => List.mem_append_left _ (Option.mem_toList.mpr hv)
    have hlocationLater : ∀ v ∈ location, v ∈ mark.toList ++ (location.toList ++ name.toList) :=
      fun v hv => List.mem_append_right _ (List.mem_append_left _ (Option.mem_toList.mpr hv))
    rcases wordPlace_cases w with hplace | hplace | hplace
    · obtain rfl := hnone hmark hmarkLater (by decide) (by omega)
      exact ⟨some w, location, name, rfl, by simpa using hplace, hlocation, hname⟩
    · obtain rfl := hnone hmark hmarkLater (by decide) (by omega)
      obtain rfl := hnone hlocation hlocationLater (by decide) (by omega)
      exact ⟨none, some w, name, rfl, by simp, by simpa using hplace, hname⟩
    · obtain rfl := hnone hmark hmarkLater (by decide) (by omega)
      obtain rfl := hnone hlocation hlocationLater (by decide) (by omega)
      cases name with
      | none =>
        have hidentifier := h.named w List.mem_cons_self hplace
        exact ⟨none, none, some w, rfl, by simp, by simp, by simpa using ⟨hplace, hidentifier⟩⟩
      | some other =>
        have hother := (hname other rfl).1
        simp [hplace, hother] at hnames

/-- The words behind the type of a component. -/
def behindType (component : List Char) : List (List Char) := Text.words (firstWord component).2

/-- A component in the documented form `type [indexed] [location] [name]`. -/
structure DocumentedParam (component : List Char) : Prop where
  /-- The first word is a type. -/
  type : ∃ t, Ty.ofChars (firstWord component).1 = .ok t
  /-- The words behind it are in their places. -/
  words : InPlaces (behindType component)

/-- A list of parameters in the documented form. -/
def DocumentedParams (s : List Char) : Prop :=
  ∃ parts, components (Text.trim s) = .ok parts ∧ ∀ part ∈ parts, DocumentedParam part

/-- A list of parameters with orderly words behind their types. -/
def OrderlyParams (s : List Char) : Prop :=
  ∀ parts, components (Text.trim s) = .ok parts → ∀ part ∈ parts, Orderly (behindType part)

/-- The components of a list are the ones it is cut into. -/
theorem orderlyParams_iff {s : List Char} {parts : List (List Char)}
    (h : components (Text.trim s) = .ok parts) :
    OrderlyParams s ↔ ∀ part ∈ parts, Orderly (behindType part) := by
  constructor
  · intro horderly
    exact horderly parts h
  · intro horderly others hothers
    cases h.symm.trans hothers
    exact horderly

/-- A list that is read is in the documented form exactly when the words behind the types are
orderly. -/
theorem documentedParams_iff {s : List Char} {ps : List EventParam} (h : paramList s = .ok ps) :
    DocumentedParams s ↔ OrderlyParams s := by
  obtain ⟨members, hcut, -, hread⟩ := paramList_eq_ok.mp h
  rw [orderlyParams_iff hcut]
  constructor
  · rintro ⟨parts, hparts, hdocumented⟩
    cases hcut.symm.trans hparts
    exact fun part hpart => (hdocumented part hpart).words.orderly
  · intro horderly
    refine ⟨_, hcut, List.forall_mem_map.mpr fun m hm => ?_⟩
    obtain ⟨htype, name, -, hwords⟩ := EventParam.ofChars_eq_ok.mp (hread m hm)
    have hnames := length_names_of_paramWords hwords
    rw [Option.toList_none, List.length_nil, Nat.zero_add] at hnames
    exact ⟨⟨m.2.ty, htype⟩, (horderly m.1 (List.mem_map_of_mem hm)).inPlaces hnames⟩

end ContractToolkit.Interface
