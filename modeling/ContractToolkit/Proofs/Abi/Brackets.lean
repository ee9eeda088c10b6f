import ContractToolkit.Interface.Declaration
import ContractToolkit.Proofs.Abi.Depth

/-!
# Texts with matching brackets

Lists of components, first words and declarations are cut by scanners that count
open brackets. A text whose brackets match, each with one of its kind, is passed
over by all of them, the one that counts parentheses only among them, so texts are
put together from such pieces and cut at the same places again.
-/

namespace ContractToolkit.Abi

/-- What the scanner for the closing parenthesis does at a character, at any depth. -/
theorem untilClosing?_cons (depth : Nat) (c : Char) (rest : List Char) :
    Interface.untilClosing? depth (c :: rest) =
      if c = '(' then
        (Interface.untilClosing? (depth + 1) rest).map fun (inside, after) => (c :: inside, after)
      else if c = ')' then
        match depth with
        | 0 => some ([], rest)
        | depth + 1 =>
          (Interface.untilClosing? depth rest).map fun (inside, after) => (c :: inside, after)
      else (Interface.untilClosing? depth rest).map fun (inside, after) => (c :: inside, after) := by
  cases depth with
  | zero => rw [Interface.untilClosing?.eq_def]
  | succ depth => rw [Interface.untilClosing?.eq_def]

/-- Two brackets that match. -/
inductive Pair : Char → Char → Prop
  | round : Pair '(' ')'
  | square : Pair '[' ']'

namespace Pair

variable {opening closing : Char}

theorem isOpening_left (h : Pair opening closing) : isOpening opening = true := by
  cases h <;> rfl

theorem isClosing_right (h : Pair opening closing) : isClosing closing = true := by
  cases h <;> rfl

end Pair

/-- A text whose brackets match, with only certain characters outside of all brackets. -/
inductive Bracketed : (outside : Char → Prop) → List Char → Prop
  | nil {outside : Char → Prop} : Bracketed outside []
  | char {outside : Char → Prop} {c : Char} {rest : List Char} (opening : isOpening c = false)
      (closing : isClosing c = false) (allowed : outside c) (others : Bracketed outside rest) :
      Bracketed outside (c :: rest)
  | group {outside : Char → Prop} {opening closing : Char} {inside rest : List Char}
      (pair : Pair opening closing) (members : Bracketed (fun _ => True) inside)
      (others : Bracketed outside rest) :
      Bracketed outside (opening :: (inside ++ closing :: rest))

namespace Bracketed

variable {outside wider : Char → Prop} {s t : List Char}

/-- Two such texts in a row are one. -/
theorem append (hs : Bracketed outside s) (ht : Bracketed outside t) :
    Bracketed outside (s ++ t) := by
  induction hs with
  | nil => exact ht
  | char opening closing allowed _ ih => exact .char opening closing allowed (ih ht)
  | @group outside opening closing inside rest pair members _ _ ih =>
    have hrest := ih ht
    simpa using Bracketed.group pair members hrest

/-- More characters may be allowed outside. -/
theorem mono (h : Bracketed outside s) (hwider : ∀ c, outside c → wider c) : Bracketed wider s := by
  induction h with
  | nil => exact .nil
  | char opening closing allowed _ ih =>
    exact .char opening closing (hwider _ allowed) (ih hwider)
  | group pair members _ _ ih => exact .group pair members (ih hwider)

/-- A text without brackets is such a text. -/
theorem of_forall (h : ∀ c ∈ s, isOpening c = false ∧ isClosing c = false ∧ outside c) :
    Bracketed outside s := by
  induction s with
  | nil => exact .nil
  | cons c rest ih =>
    obtain ⟨opening, closing, allowed⟩ := h c List.mem_cons_self
    exact .char opening closing allowed (ih fun d hd => h d (List.mem_cons_of_mem _ hd))

/-- Such a text closes what it opens. -/
theorem spans (h : Bracketed outside s) : Spans outside 0 s := by
  induction h with
  | nil => exact .nil
  | char opening closing allowed _ ih => exact .char opening closing (fun _ => allowed) ih
  | group pair _ _ ihInside ihOthers =>
    exact .group pair.isOpening_left pair.isClosing_right ihInside ihOthers

/-- The scanner for the closing parenthesis goes on behind such a text. -/
theorem untilClosing?_append (h : Bracketed outside s) (depth : Nat) (rest : List Char) :
    Interface.untilClosing? depth (s ++ rest) =
      (Interface.untilClosing? depth rest).map fun (inside, after) => (s ++ inside, after) := by
  induction h generalizing depth rest with
  | nil => simp
  | @char outside c others opening closing allowed _ ih =>
    have hopening : c ≠ '(' := by
      rintro rfl
      cases opening
    have hclosing : c ≠ ')' := by
      rintro rfl
      cases closing
    rw [List.cons_append, untilClosing?_cons, if_neg hopening, if_neg hclosing, ih,
      Option.map_map]
    rfl
  | @group outside opening closing inside others pair _ _ ihInside ihOthers =>
    -- Only round brackets are counted here; square ones pass like any other character.
    cases pair with
    | round =>
      have hinside := ihInside (depth + 1) (')' :: others ++ rest)
      have hothers := ihOthers depth rest
      rw [List.cons_append, List.append_assoc, untilClosing?_cons, if_pos rfl, hinside,
        List.cons_append, untilClosing?_cons, if_neg (by decide), if_pos rfl]
      dsimp only
      rw [hothers]
      cases Interface.untilClosing? depth rest with
      | none => rfl
      | some parts => simp
    | square =>
      have hinside := ihInside depth (']' :: others ++ rest)
      have hothers := ihOthers depth rest
      rw [List.cons_append, List.append_assoc, untilClosing?_cons, if_neg (by decide),
        if_neg (by decide), hinside, List.cons_append, untilClosing?_cons,
        if_neg (by decide), if_neg (by decide), hothers]
      cases Interface.untilClosing? depth rest with
      | none => rfl
      | some parts => simp

end Bracketed

/-- A character at which no scanner stops outside of brackets. -/
def Bare (c : Char) : Prop := c ≠ ',' ∧ Text.isBlank c = false

/-- The characters of identifiers are letters, digits, `_` and `$` of ASCII. -/
theorem toNat_of_isNamePart {c : Char} (h : Interface.isNamePart c = true) :
    c.toNat = 36 ∨ (48 ≤ c.toNat ∧ c.toNat ≤ 57) ∨ (65 ≤ c.toNat ∧ c.toNat ≤ 90) ∨
      c.toNat = 95 ∨ (97 ≤ c.toNat ∧ c.toNat ≤ 122) := by
  have hclass : (c.isUpper || c.isLower || c.isDigit || c == '_' || c == '$') = true := h
  simp only [Bool.or_eq_true, beq_iff_eq] at hclass
  rcases hclass with (((hupper | hlower) | hdigit) | rfl) | rfl
  · have hrange : 65 ≤ c.toNat ∧ c.toNat ≤ 90 := of_decide_eq_true hupper
    omega
  · obtain ⟨hlow, hhigh⟩ := Bool.and_eq_true_iff.mp hlower
    have hrange : 97 ≤ c.toNat ∧ c.toNat ≤ 122 := ⟨of_decide_eq_true hlow, of_decide_eq_true hhigh⟩
    omega
  · have hrange : 48 ≤ c.toNat ∧ c.toNat ≤ 57 := Char.isDigit_iff_toNat.mp hdigit
    omega
  · decide
  · decide

/-- The characters of identifiers are no brackets, no commas and no white space. -/
theorem bare_of_isNamePart {c : Char} (h : Interface.isNamePart c = true) :
    isOpening c = false ∧ isClosing c = false ∧ Bare c := by
  have hcode := toNat_of_isNamePart h
  have hother (d : Char) (hd : ¬ (d.toNat = 36 ∨ (48 ≤ d.toNat ∧ d.toNat ≤ 57) ∨
      (65 ≤ d.toNat ∧ d.toNat ≤ 90) ∨ d.toNat = 95 ∨ (97 ≤ d.toNat ∧ d.toNat ≤ 122))) :
      c ≠ d := fun hc => hd (hc ▸ hcode)
  refine ⟨?_, ?_, hother ',' (by decide), ?_⟩
  · simp [isOpening, hother '(' (by decide), hother '[' (by decide)]
  · simp [isClosing, hother ')' (by decide), hother ']' (by decide)]
  · simp only [Text.isBlank, Bool.or_eq_false_iff, Bool.and_eq_false_iff, decide_eq_false_iff_not,
      beq_eq_false_iff_ne]
    omega

/-- A component as it stands in a list: not empty, without white space at its ends, its brackets
matching and no comma outside of them. -/
structure Component (s : List Char) : Prop where
  /-- It is not empty. -/
  ne_nil : s ≠ []
  /-- No white space is at its ends. -/
  trimmed : Text.Trimmed s
  /-- Its brackets match, and its commas are inside of them. -/
  bracketed : Bracketed (· ≠ ',') s

/-- A list is cut into the components it was put together from, with or without white space behind
the commas. -/
theorem components_intercalate (gap : List Char) {parts : List (List Char)}
    (hgap : Text.Blank gap) (h : ∀ p ∈ parts, Component p) :
    components ((',' :: gap).intercalate parts) = .ok parts :=
  components_join hgap fun p hp => ⟨(h p hp).ne_nil, (h p hp).trimmed, (h p hp).bracketed.spans⟩

end ContractToolkit.Abi
