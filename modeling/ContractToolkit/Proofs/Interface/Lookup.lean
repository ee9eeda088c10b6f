import ContractToolkit.Proofs.Interface.Members
import Mathlib.Data.List.TakeWhile

/-!
# Functions are found by their names and signatures

A key without a parenthesis is a name, and stands for the only function with
that name. Any other key is read like the declaration of a function and stands
for the function that has its signature, of which an interface built up from
nothing has no more than one. A signature is read as itself.
-/

namespace ContractToolkit.Interface

open Abi Outcome

/-- A text that spells a signature has a parenthesis. -/
theorem opening_mem_of_canonicalSignature {s : List Char} {wanted : String}
    (h : canonicalSignature s = .ok wanted) : '(' ∈ s := by
  obtain ⟨parts, hparts, -⟩ := bind_eq_ok.mp h
  obtain ⟨before, inside, htext, -, -⟩ := Declaration.exists_text_of_ofChars hparts
  rw [withoutKeyword_empty (Text.trimmed_trim s)] at htext
  refine Text.mem_of_mem_trim ?_
  rw [htext]
  exact List.mem_append_right before List.mem_cons_self

/-- What a declaration of a function says about its signature: its name is in front of the first
parenthesis, and its types are those of the parameters behind it. -/
theorem Method.parts_of_ofText {text : String} {m : Method} (h : ofText text = .ok m) :
    ∃ parts params, Declaration.ofChars "function" text.toList = .ok parts ∧
      paramList parts.params = .ok params ∧
      m.signature = Abi.signature (String.ofList parts.name) (params.map EventParam.ty) := by
  obtain ⟨parts, params, outputs, mutability, hparts, hparams, hdeclare⟩ :=
    exists_declare_of_ofText h
  simp only [declare, test_eq_ok, pure_eq_ok] at hdeclare
  obtain ⟨-, -, rfl⟩ := hdeclare
  refine ⟨parts, params, hparts, hparams, ?_⟩
  rw [signature, tys_map_plain]

/-- The signature that a key stands for is that of the function that it declares. -/
theorem canonicalSignature_of_ofText {key : String} {m : Method} (h : Method.ofText key = .ok m)
    (hkeyword : ¬ Introduced "function" key.toList) :
    canonicalSignature key.toList = .ok m.signature := by
  obtain ⟨parts, params, hparts, hparams, hsignature⟩ := Method.parts_of_ofText h
  rw [Declaration.ofChars_of_not_introduced hkeyword] at hparts
  rw [canonicalSignature, bind_eq_ok]
  refine ⟨parts, hparts, bind_eq_ok.mpr ⟨params, hparams, ?_⟩⟩
  rw [hsignature]
  rfl

/-- A signature is read as itself. -/
theorem canonicalSignature_signature {name : String} {types : List Ty}
    (hname : isIdentifier name.toList = true) (hdeclared : Ty.faults? types = none)
    (hsized : ∀ t ∈ types, t.isSized = true) :
    canonicalSignature (signature name types).toList = .ok (signature name types) := by
  obtain ⟨hne, hsolid, hopening⟩ := word_of_isIdentifier hname
  have hends : Text.Trimmed [')'] := by decide
  have hchars := toList_signature name types
  have htrimmed : Text.Trimmed (signature name types).toList := by
    rw [hchars]
    exact Declaration.trimmed_text ⟨hne, hsolid⟩ hends ('(' :: _)
  have hparams : Bracketed (fun _ => True) ([','].intercalate (types.map Ty.chars)) :=
    Text.intercalate_closed .nil (fun _ _ => Bracketed.append) (.char rfl rfl trivial .nil)
      (List.forall_mem_map.mpr fun t _ => t.bracketed_chars.mono fun _ _ => trivial)
  have hparts := Declaration.ofChars_eq htrimmed ((withoutKeyword_empty htrimmed).trans hchars)
    hsolid.trimmed hopening hparams
  have hread := paramList_chars hdeclared hsized
  have htypes : (types.map EventParam.unnamed).map EventParam.ty = types := by
    rw [List.map_map]
    exact List.map_id types
  rw [canonicalSignature, bind_eq_ok]
  refine ⟨_, hparts, bind_eq_ok.mpr ⟨_, hread, ?_⟩⟩
  rw [htypes, String.ofList_toList]
  rfl

section Lists

variable {α : Type} {kind : String} {name signature : α → String} {members : List α}

/-- Of members that are listed once, one is selected alone exactly when it is the only one of its
kind. -/
theorem filter_eq_singleton (hmembers : members.Nodup) {p : α → Bool} {m : α} :
    members.filter p = [m] ↔ m ∈ members ∧ p m = true ∧ ∀ other ∈ members, p other → other = m := by
  rw [← List.perm_singleton, List.perm_ext_iff_of_nodup (hmembers.filter p) (List.nodup_singleton m)]
  simp only [List.mem_filter, List.mem_singleton]
  constructor
  · intro h
    obtain ⟨hm, hp⟩ := (h m).mpr rfl
    exact ⟨hm, hp, fun other hother hsame => (h other).mp ⟨hother, hsame⟩⟩
  · rintro ⟨hm, hp, honly⟩ other
    constructor
    · rintro ⟨hother, hsame⟩
      exact honly other hother hsame
    · rintro rfl
      exact ⟨hm, hp⟩

/-- A name stands for the only member that has it. -/
theorem find_name (hmembers : members.Nodup) {key : String} (hkey : '(' ∉ key.toList) {m : α} :
    find kind name signature members key = .ok m ↔
      m ∈ members ∧ name m = key ∧ ∀ other ∈ members, name other = key → other = m := by
  have honly : find kind name signature members key = .ok m ↔
      members.filter (fun member => name member = key) = [m] := by
    rw [find, if_neg (by simpa using hkey)]
    split
    · rename_i hfilter
      simp [hfilter]
    · rename_i member hfilter
      simp [hfilter]
    · rename_i hnone hone
      simpa using hone m
  rw [honly, filter_eq_singleton hmembers]
  simp only [decide_eq_true_eq]

/-- Under keys that no two members share, the first member with a key is the only one. -/
theorem find?_key {κ : Type} [DecidableEq κ] {key : α → κ} (hdistinct : (members.map key).Nodup)
    {wanted : κ} {m : α} :
    members.find? (fun member => key member = wanted) = some m ↔ m ∈ members ∧ key m = wanted := by
  constructor
  · intro h
    exact ⟨List.mem_of_find?_eq_some h, by simpa using List.find?_some h⟩
  · rintro ⟨hm, hkey⟩
    cases hfound : members.find? (fun member => key member = wanted) with
    | none =>
      have hother := List.find?_eq_none.mp hfound m hm
      simp [hkey] at hother
    | some other =>
      have hother : key other = wanted := by simpa using List.find?_some hfound
      have hsame := List.inj_on_of_nodup_map hdistinct (List.mem_of_find?_eq_some hfound) hm
        (hother.trans hkey.symm)
      rw [hsame]

/-- A key that spells a signature stands for the member that has it. -/
theorem find_signature (hdistinct : (members.map signature).Nodup) {key wanted : String}
    (hwanted : canonicalSignature key.toList = .ok wanted) {m : α} :
    find kind name signature members key = .ok m ↔ m ∈ members ∧ signature m = wanted := by
  have hkey := opening_mem_of_canonicalSignature hwanted
  rw [find, if_pos (by simpa using hkey), hwanted, ← find?_key hdistinct]
  dsimp only [Bind.bind, Except.bind]
  cases members.find? (fun member => signature member = wanted) with
  | none => simp
  | some other => simp

end Lists

/-- Lookup of functions in every interface built up from declared members: a name stands for the
only function that has it; any other key stands for the function with the signature that it
declares, however it is written; and every function is found by its signature. -/
theorem method_lookup {members : List Member} (hdeclared : ∀ d ∈ members, d.Declared) :
    let i := members.foldl Member.addTo empty
    (∀ (key : String) (m : Method), '(' ∉ key.toList →
      (i.method key = .ok m ↔
        m ∈ i.methods ∧ m.name = key ∧ ∀ other ∈ i.methods, other.name = key → other = m)) ∧
    (∀ (key : String) (wanted m : Method),
      Method.ofText key = .ok wanted → ¬ Introduced "function" key.toList →
      (i.method key = .ok m ↔ m ∈ i.methods ∧ m.signature = wanted.signature)) ∧
    (∀ m ∈ i.methods, (∀ p ∈ m.inputs, p.ty.isSized = true) → i.method m.signature = .ok m) := by
  intro i
  have hdistinct := (distinct_foldl members).methods
  refine ⟨?names, ?spellings, ?signatures⟩
  case names =>
    intro key m hkey
    exact find_name (hdistinct.of_map _) hkey
  case spellings =>
    intro key wanted m hread hkeyword
    exact find_signature hdistinct (canonicalSignature_of_ofText hread hkeyword)
  case signatures =>
    intro m hm hsized
    have hmember : i.Has (.method m) := hm
    have hmethod : m.Declared := declared_of_has hdeclared hmember
    have hname := (Method.declared_iff.mp hmethod).1
    have htypes : ∀ t ∈ tys m.inputs, t.isSized = true := List.forall_mem_map.mpr hsized
    have hread := canonicalSignature_signature hname hmethod.faults?_eq_none.1 htypes
    exact (find_signature hdistinct hread).mpr ⟨hm, rfl⟩

/-- Two functions of one name, one of which has taken the place of another, are told apart by keys
with blanks, names, a location and clauses; a function called `function` is found by its name and
by its signature, which the keyword introduces. -/
theorem method_lookup_overloaded :
    let members : List Member := [.method ⟨"get", [⟨"", .uint 256⟩, ⟨"", .bytes⟩], [], .write⟩,
      .method ⟨"get", [⟨"", .tuple [.tuple [], .array .bool]⟩], [], .read⟩,
      .method ⟨"function", [⟨"", .address⟩], [], .payable⟩,
      .method ⟨"get", [⟨"key", .uint 256⟩, ⟨"", .bytes⟩], [⟨"", .bool⟩], .read⟩]
    let i := members.foldl Member.addTo empty
    i.method " get ( uint id , bytes memory data ) view returns(bool)" =
        .ok ⟨"get", [⟨"key", .uint 256⟩, ⟨"", .bytes⟩], [⟨"", .bool⟩], .read⟩ ∧
      i.method "function" = .ok ⟨"function", [⟨"", .address⟩], [], .payable⟩ ∧
      i.method "function(address)" = .ok ⟨"function", [⟨"", .address⟩], [], .payable⟩ := by
  intro members i
  have hdeclared : ∀ d ∈ members, d.Declared :=
    List.forall_mem_cons.mpr ⟨rfl, List.forall_mem_cons.mpr ⟨rfl, List.forall_mem_cons.mpr ⟨rfl,
      List.forall_mem_singleton.mpr rfl⟩⟩⟩
  have hmethods : i.methods = [⟨"get", [⟨"", .tuple [.tuple [], .array .bool]⟩], [], .read⟩,
      ⟨"function", [⟨"", .address⟩], [], .payable⟩,
      ⟨"get", [⟨"key", .uint 256⟩, ⟨"", .bytes⟩], [⟨"", .bool⟩], .read⟩] := rfl
  have hread : Method.ofText " get ( uint id , bytes memory data ) view returns(bool)" =
      .ok ⟨"get", [⟨"id", .uint 256⟩, ⟨"data", .bytes⟩], [⟨"", .bool⟩], .read⟩ := by
    decide +kernel
  have hkeyword : ¬ Introduced "function"
      " get ( uint id , bytes memory data ) view returns(bool)".toList := by
    decide +kernel
  have hsignature : (Method.mk "function" [⟨"", .address⟩] [] .payable).signature =
      "function(address)" := rfl
  obtain ⟨hnames, hspellings, hsignatures⟩ := method_lookup hdeclared
  refine ⟨(hspellings _ _ _ hread hkeyword).mpr ?spelling, (hnames _ _ (by decide)).mpr ?name,
    hsignature ▸ hsignatures _ ?member (by decide)⟩
  case spelling =>
    change _ ∈ i.methods ∧ _
    rw [hmethods]
    decide
  case name =>
    change _ ∈ i.methods ∧ _ ∧ ∀ other ∈ i.methods, _
    rw [hmethods]
    decide
  case member =>
    change _ ∈ i.methods
    rw [hmethods]
    decide

end ContractToolkit.Interface
