import ContractToolkit.CommandLine.Program
import ContractToolkit.Proofs.Interface.LeadingWords

/-!
# Functions without keyword

The keyword of a function may be left out. The loader of interfaces and the command
that prints selectors take such a text for the function that it declares, whatever
the name begins with, unless the name is the keyword of another kind: the loader
then takes the text for an event or an error, and so does the command for an error
if white space follows.
-/

namespace ContractToolkit.CommandLine

open Abi Interface

variable {text : String} {m : Method}

/-- A text that is taken for that of an error begins with the keyword of errors. -/
theorem eq_error_of_declaresError {word : List Char} (h : declaresError text = true)
    (hbegins : BeginsWith word (Text.trim text.toList)) : word = "error".toList := by
  obtain ⟨back, -, hback⟩ := Text.exists_eq_trimEnd_append (Text.trimStart text.toList)
  obtain ⟨hword, hopening, d, behind, htext, hd⟩ := hbegins
  rw [declaresError] at h
  split at h
  · rename_i c rest hafter
    have herror := Ty.after?_eq_some.mp hafter
    have hkeyword : keyword (Text.trimStart text.toList) = "error".toList := by
      rw [herror]
      exact keyword_append (by decide) (by decide) (Or.inr h) rest
    rw [hback] at hkeyword
    change keyword (Text.trim text.toList ++ back) = _ at hkeyword
    rw [htext, List.append_assoc, List.cons_append, keyword_append hword hopening hd] at hkeyword
    exact hkeyword
  · cases h

/-- A function whose text is taken for that of an error has that keyword as its name, and none in
front of it. -/
theorem bare_of_declaresError (h : Method.ofText text = .ok m)
    (herror : declaresError text = true) :
    ¬ Introduced "function" text.toList ∧ m.name = "error" := by
  have hword := String.toList_inj.mp (eq_error_of_declaresError herror (Method.beginsWith h))
  rw [Method.leadingWord] at hword
  split at hword
  · exact absurd hword (by decide)
  · rename_i hbare
    exact ⟨hbare, hword⟩

/-- The selector of a function is printed when its text is not taken for that of an error. -/
theorem selectorLine_of_ofText (h : Method.ofText text = .ok m)
    (hfunction : declaresError text = false) :
    selectorLine text = .ok (digestLine m.selector.bytes m.signature) := by
  rw [selectorLine, hfunction, if_neg Bool.false_ne_true, h]
  rfl

/-- Nothing is printed for a function whose text is taken for that of an error. -/
theorem selectorLine_of_declaresError (h : Method.ofText text = .ok m)
    (herror : declaresError text = true) : ∃ fault, selectorLine text = .error fault := by
  obtain ⟨hbare, hname⟩ := bare_of_declaresError h herror
  have hnameless := Method.nameless_of_bare h hbare
  rw [hname] at hnameless
  obtain ⟨fault, hfault⟩ := hnameless.not_read fun _ => CustomError.isIdentifier_of_ofText
  refine ⟨fault, ?_⟩
  rw [selectorLine, herror, if_pos rfl, hfault]
  rfl

/-- Functions without keyword. Every text that is read as a function that is not called
`constructor` is loaded as that function and nothing else, and the command prints the selector of
that function, unless the text has no keyword and the name is `event` or `error`. Such a text is not
loaded at all, and the command fails for it as well where white space stands behind `error`. -/
theorem ofTexts_function_iff_not_reserved (h : Method.ofText text = .ok m) (hname : m.name ≠ "constructor") :
    (¬ m.Reserved text →
      Interface.ofTexts [text] = .ok ⟨none, [m], [], []⟩ ∧
        ∀ s settings, Command.start s settings (.selector text) =
          .ok (.done (.ok (digestLine m.selector.bytes m.signature)))) ∧
      (m.Reserved text →
        (∃ fault, Interface.ofTexts [text] = .error fault) ∧
          ∀ s settings, if declaresError text = true then
              ∃ fault, Command.start s settings (.selector text) = .error fault
            else Command.start s settings (.selector text) =
              .ok (.done (.ok (digestLine m.selector.bytes m.signature)))) := by
  have hstart (hfunction : declaresError text = false) (s : Surroundings) (settings : Settings) :
      Command.start s settings (.selector text) =
        .ok (.done (.ok (digestLine m.selector.bytes m.signature))) := by
    rw [Command.start, selectorLine_of_ofText h hfunction]
    rfl
  refine ⟨fun hfree => ⟨?loaded, hstart ?function⟩,
    fun hreserved => ⟨?refused, fun s settings => ?command⟩⟩
  case loaded =>
    rw [ofTexts, List.foldlM_cons,
      addText_of_ofText h (Method.leadingWord_not_mem hname hfree) Interface.empty]
    rfl
  case function =>
    cases herror : declaresError text with
    | false => rfl
    | true =>
      obtain ⟨hbare, hkeyword⟩ := bare_of_declaresError h herror
      exact absurd ⟨hbare, Or.inr hkeyword⟩ hfree
  case refused =>
    obtain ⟨fault, hfault⟩ := addText_of_reserved h hreserved Interface.empty
    refine ⟨fault, ?_⟩
    rw [ofTexts, List.foldlM_cons, hfault]
    rfl
  case command =>
    split
    · rename_i herror
      obtain ⟨fault, hfault⟩ := selectorLine_of_declaresError h herror
      refine ⟨.failed (.descriptor fault), ?_⟩
      rw [Command.start, hfault]
      rfl
    · rename_i hfunction
      exact hstart (Bool.eq_false_iff.mpr hfunction) s settings

/-- A bare function whose name begins with a keyword, and one with a keyword whose name is another
one. -/
theorem ofTexts_function_iff_not_reserved_named :
    let bare := " eventual (uint256)"
    let introduced := "function error(bool) view"
    let eventual : Method := ⟨"eventual", [⟨"", .uint 256⟩], [], .write⟩
    let error : Method := ⟨"error", [⟨"", .bool⟩], [], .read⟩
    (Method.ofText bare = .ok eventual ∧ eventual.name ≠ "constructor" ∧ ¬ eventual.Reserved bare) ∧
      Interface.ofTexts [bare] = .ok ⟨none, [eventual], [], []⟩ ∧
      (Method.ofText introduced = .ok error ∧ error.name ≠ "constructor" ∧
        ¬ error.Reserved introduced) ∧
      Interface.ofTexts [introduced] = .ok ⟨none, [error], [], []⟩ := by
  intro bare introduced eventual error
  have hbare : Method.ofText bare = .ok eventual := by decide +kernel
  have hintroduced : Method.ofText introduced = .ok error := by decide +kernel
  have hfree : ¬ eventual.Reserved bare := fun h => absurd h.name (by decide)
  have hkeyword : Introduced "function" introduced.toList := by decide +kernel
  have hfunction : ¬ error.Reserved introduced := fun h => absurd hkeyword h.bare
  obtain ⟨hloaded, -⟩ := (ofTexts_function_iff_not_reserved hbare (by decide)).1 hfree
  obtain ⟨hfound, -⟩ := (ofTexts_function_iff_not_reserved hintroduced (by decide)).1 hfunction
  exact ⟨⟨hbare, by decide, hfree⟩, hloaded, ⟨hintroduced, by decide, hfunction⟩, hfound⟩

/-- A bare function called `event` is read as a function, but is not loaded; one called `error` has
no selector printed when there is white space behind the name. -/
theorem ofTexts_reserved_fails :
    let event : Method := ⟨"event", [⟨"", .uint 256⟩], [], .write⟩
    let error : Method := ⟨"error", [⟨"", .uint 256⟩], [], .write⟩
    (Method.ofText "event(uint256)" = .ok event ∧ event.name ≠ "constructor" ∧
      Interface.ofTexts ["event(uint256)"] = .error (.identifier "")) ∧
      (Method.ofText "error (uint256)" = .ok error ∧ error.name ≠ "constructor" ∧
        Interface.ofTexts ["error (uint256)"] = .error (.identifier "") ∧
          selectorLine "error (uint256)" = .error (.identifier "")) := by
  decide +kernel

end ContractToolkit.CommandLine
