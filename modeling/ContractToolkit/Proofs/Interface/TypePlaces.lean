import ContractToolkit.Proofs.Abi.SpacedTypes
import ContractToolkit.Proofs.Interface.ParameterReading
import ContractToolkit.Proofs.Interface.Signatures

/-!
# A type in the places where it is written

A type is written by itself, as the only parameter of a list, or as the only
component of a tuple. It means the same in these places as long as it is one word;
where white space stands in front of the suffix of a sequence, the list and the
tuple take the type of the elements instead.
-/

namespace ContractToolkit.Interface

open Abi

/-- A text that stands for a type as a parameter and as a component. -/
structure MeansInPlaces (text : String) (t : Ty) : Prop where
  /-- A list of the text alone is one parameter of the type, without a name or a mark. -/
  listed : paramList text.toList = .ok [EventParam.unnamed t]
  /-- In parentheses the text is a tuple with the type as its only component. -/
  grouped : Ty.ofText ("(" ++ text ++ ")") = .ok (.tuple [t])

/-- A text of which lists and tuples take a type for the whole, whatever they take for a name. -/
structure TakenInPlaces (text : String) (u : Ty) : Prop where
  /-- Every list that is read has one parameter of the type. -/
  listed : ∀ ps, paramList text.toList = .ok ps → ps.map EventParam.ty = [u]
  /-- In parentheses the text is a tuple with the type as its only component. -/
  grouped : Ty.ofText ("(" ++ text ++ ")") = .ok (.tuple [u])

/-- What is written as a type is the only component of a list, but for white space at its ends. -/
theorem components_of_written {s : List Char} {t : Ty} (h : Written (Text.trim s) t) :
    components (Text.trim s) = .ok [Text.trim s] ∧ components s = .ok [Text.trim s] := by
  have htrim := (Text.trimmed_trim s).trim_eq
  refine ⟨?trimmed, ?whole⟩
  case trimmed =>
    have hcut := components_singleton h.spans (htrim.symm ▸ h.ne_nil)
    rwa [htrim] at hcut
  case whole =>
    obtain ⟨front, back, hfront, hback, hs⟩ := Text.exists_eq_append_trim s
    have hspans := ((Spans.of_blank hfront).append h.spans).append (.of_blank hback)
    exact components_singleton (hs ▸ hspans) h.ne_nil

/-- A list of a component alone has one parameter, of the type that its first word declares. -/
theorem paramList_singleton {s part : List Char} (hcut : components (Text.trim s) = .ok [part])
    {ps : List EventParam} :
    paramList s = .ok ps ↔ ∃ p, EventParam.ofChars part = .ok p ∧ ps = [p] := by
  rw [paramList_eq_ok, hcut]
  constructor
  · rintro ⟨members, hparts, rfl, hread⟩
    match members, Except.ok.inj hparts with
    | [(_, p)], rfl => exact ⟨p, hread _ List.mem_cons_self, rfl⟩
  · rintro ⟨p, hp, rfl⟩
    exact ⟨[(part, p)], rfl, rfl, List.forall_mem_singleton.mpr hp⟩

theorem toList_grouped (text : String) :
    ("(" ++ text ++ ")").toList = '(' :: (text.toList ++ [')']) := by
  simp

/-- A text whose first word is written as a type is taken for that type in lists and tuples. -/
theorem takenInPlaces_of_firstWord {text : String} {t u : Ty}
    (hwritten : Written (Text.trim text.toList) t)
    (hword : Written (firstWord (Text.trim text.toList)).1 u) (hdeclared : u.fault? = none) :
    TakenInPlaces text u := by
  obtain ⟨htrimmed, hwhole⟩ := components_of_written hwritten
  refine ⟨?listed, ?grouped⟩
  case listed =>
    intro ps hps
    obtain ⟨p, hp, rfl⟩ := (paramList_singleton htrimmed).mp hps
    obtain ⟨htype, -⟩ := EventParam.ofChars_eq_ok.mp hp
    rw [hword.ofChars_eq hdeclared] at htype
    cases htype
    rfl
  case grouped =>
    rw [Ty.ofText, toList_grouped]
    exact Ty.ofChars_tuple hwhole hword hdeclared

/-- A type that is one word means the same in lists and tuples. -/
theorem meansInPlaces_of_unbroken {text : String} {t : Ty}
    (hwritten : Written (Text.trim text.toList) t) (hdeclared : t.fault? = none)
    (hone : Unbroken (Text.trim text.toList)) : MeansInPlaces text t := by
  have hword : Written (firstWord (Text.trim text.toList)).1 t := by
    rw [hone.firstWord_eq]
    exact hwritten
  refine ⟨?listed, (takenInPlaces_of_firstWord hwritten hword hdeclared).grouped⟩
  case listed =>
    refine (paramList_singleton (components_of_written hwritten).1).mpr
      ⟨_, EventParam.ofChars_eq_ok.mpr ⟨hword.ofChars_eq hdeclared, [], rfl, ?_⟩, rfl⟩
    rw [hone.firstWord_eq]
    rfl

/-- Signatures tell a type from another one under the same name. -/
theorem signature_singleton_ne {t u : Ty} (h : u ≠ t) (name : String) :
    signature name [u] ≠ signature name [t] := by
  intro hsignatures
  have hchars := String.ofList_injective hsignatures
  have htuples := Ty.chars_injective (List.append_cancel_left hchars)
  cases htuples
  exact h rfl

/-- A type means the same wherever it is written exactly when no white space stands outside of its
brackets. Where some does, it is in front of the suffix of a sequence: lists and tuples take the text
for the type of the elements then, and signatures tell the difference. -/
theorem meansInPlaces_iff_unbroken (text : String) (t : Ty) (h : Ty.ofText text = .ok t) :
    (MeansInPlaces text t ↔ Unbroken (Text.trim text.toList)) ∧
      (¬ Unbroken (Text.trim text.toList) → ∃ u, u.ElementOf t ∧ TakenInPlaces text u ∧
        ∀ name, signature name [u] ≠ signature name [t]) := by
  obtain ⟨hwritten, hdeclared⟩ := Ty.ofChars_eq_ok_iff_written.mp h
  have hbroken (hsome : ¬ Unbroken (Text.trim text.toList)) :
      ∃ u, u.ElementOf t ∧ TakenInPlaces text u := by
    obtain hone | ⟨front, gap, rest, u, hs, hgap, hfront, hword, helem⟩ := hwritten.unbroken_or
    · exact absurd hone hsome
    have hfirst : (firstWord (Text.trim text.toList)).1 = front := by
      rw [hs, hfront.firstWord_append hgap]
    exact ⟨u, helem, takenInPlaces_of_firstWord hwritten (hfirst ▸ hword)
      (helem.fault?_eq_none hdeclared)⟩
  refine ⟨⟨fun hmeans => ?_, meansInPlaces_of_unbroken hwritten hdeclared⟩, fun hsome => ?_⟩
  · by_contra hsome
    obtain ⟨u, helem, htaken⟩ := hbroken hsome
    have htuples := htaken.grouped.symm.trans hmeans.grouped
    cases htuples
    exact helem.ne rfl
  · obtain ⟨u, helem, htaken⟩ := hbroken hsome
    exact ⟨u, helem, htaken, signature_singleton_ne helem.ne⟩

/-- White space inside of brackets changes nothing; in front of the suffix of a sequence of tuples it
leaves the type of the tuples. -/
theorem meansInPlaces_iff_unbroken_spaced :
    let inner := " ( bytes[ 2 ] a , bool ) "
    let outer := "(bytes[ 2 ] a, bool) []"
    let t : Ty := .tuple [.fixedArray .bytes 2, .bool]
    Ty.ofText inner = .ok t ∧ MeansInPlaces inner t ∧ Ty.ofText outer = .ok (.array t) ∧
      ∃ u, u.ElementOf (.array t) ∧ TakenInPlaces outer u := by
  have hinner : Ty.ofText " ( bytes[ 2 ] a , bool ) " =
    .ok (.tuple [.fixedArray .bytes 2, .bool]) := rfl
  have hcut : components " bytes[ 2 ] a , bool ".toList =
    .ok ["bytes[ 2 ] a".toList, "bool".toList] := rfl
  have hone : Unbroken (Text.trim " ( bytes[ 2 ] a , bool ) ".toList) :=
    Spans.tuple (fun _ hc => hc.2) (Or.inl rfl) hcut
  have houter : Ty.ofText "(bytes[ 2 ] a, bool) []" =
    .ok (.array (.tuple [.fixedArray .bytes 2, .bool])) := rfl
  have hlist : paramList "(bytes[ 2 ] a, bool) []".toList =
    .ok [⟨"[]", .tuple [.fixedArray .bytes 2, .bool], false⟩] := rfl
  have hsome : ¬ Unbroken (Text.trim "(bytes[ 2 ] a, bool) []".toList) := by
    intro hunbroken
    have hmeans := (meansInPlaces_iff_unbroken _ _ houter).1.mpr hunbroken
    have hparams := Except.ok.inj (hlist.symm.trans hmeans.listed)
    exact absurd (congrArg (List.map EventParam.name) hparams) (by decide)
  obtain ⟨u, helem, htaken, -⟩ := (meansInPlaces_iff_unbroken _ _ houter).2 hsome
  exact ⟨hinner, (meansInPlaces_iff_unbroken _ _ hinner).1.mpr hone, houter, u, helem, htaken⟩

/-- A sequence of numbers, with white space in front of its suffix, is a number with an odd name in a
list of parameters and a number in a tuple; a function of it gets the signature of another one. -/
theorem suffix_lost :
    Ty.ofText "uint256 []" = .ok (.array (.uint 256)) ∧
      paramList "uint256 []".toList = .ok [⟨"[]", .uint 256, false⟩] ∧
      Ty.ofText "(uint256 [])" = .ok (.tuple [.uint 256]) ∧
      (Method.ofText "f(uint256 [])").toOption.map Method.signature = some "f(uint256)" :=
  ⟨rfl, rfl, rfl, rfl⟩

end ContractToolkit.Interface
