import ContractToolkit.Proofs.Abi.Brackets
import ContractToolkit.Proofs.Text.Sizes
import Mathlib.Data.List.Chain

/-!
# The grammar of types as a relation

Which texts without white space are derived for which types: names of elementary
types, texts with the suffix of a sequence, and components between parentheses,
with or without the word `tuple` in front. In every such text the brackets match
and no component is missing.
-/

namespace ContractToolkit.Abi

/-- An elementary type and a name of it; a width may be left out or have zeros in front. -/
inductive Names : List Char → Ty → Prop
  | address : Names "address".toList .address
  | bool : Names "bool".toList .bool
  | string : Names "string".toList .string
  | bytes : Names "bytes".toList .bytes
  | uint : Names "uint".toList (.uint 256)
  | int : Names "int".toList (.int 256)
  | function : Names "function".toList (.fixedBytes 24)
  | uintOf {digits : List Char} (decimal : Text.isDecimal digits = true) :
      Names ("uint".toList ++ digits) (.uint (Text.decimalValue digits))
  | intOf {digits : List Char} (decimal : Text.isDecimal digits = true) :
      Names ("int".toList ++ digits) (.int (Text.decimalValue digits))
  | bytesOf {digits : List Char} (decimal : Text.isDecimal digits = true) :
      Names ("bytes".toList ++ digits) (.fixedBytes (Text.decimalValue digits))

/-- A text of the grammar of types, and the type it is derived for. -/
inductive Spells : List Char → Ty → Prop
  | word {s : List Char} {t : Ty} (name : Names s t) : Spells s t
  | array {s : List Char} {t : Ty} (elem : Spells s t) : Spells (s ++ ['[', ']']) (.array t)
  | fixedArray {s length : List Char} {t : Ty} {n : Nat} (elem : Spells s t)
      (written : Text.WritesSize length n) :
      Spells (s ++ '[' :: (length ++ [']'])) (.fixedArray t n)
  | tuple {keyword : List Char} {members : List (List Char × Ty)}
      (introduction : keyword = [] ∨ keyword = "tuple".toList)
      (components : ∀ m ∈ members, Spells m.1 m.2) :
      Spells (keyword ++ '(' :: ([','].intercalate (members.map Prod.fst) ++ [')']))
        (.tuple (members.map Prod.snd))

/-- A text without white space is one word. -/
theorem firstWord_of_solid {s : List Char} (h : Text.Solid s) : firstWord s = (s, []) := by
  have hword (depth : Int) : firstWordFrom depth s = (s, []) := by
    induction s generalizing depth with
    | nil => rfl
    | cons c rest ih =>
      have hc := h c List.mem_cons_self
      have hrest := ih fun d hd => h d (List.mem_cons_of_mem _ hd)
      simp [firstWordFrom, hc, hrest]
  exact hword 0

/-- Digits may stand in identifiers. -/
theorem isNamePart_of_isDecimal {digits : List Char} (h : Text.isDecimal digits = true) :
    ∀ c ∈ digits, Interface.isNamePart c = true := by
  intro c hc
  have hdigit := (Text.isDecimal_iff.mp h).2 c hc
  simp [Interface.isNamePart, Char.isAlphanum, hdigit]

/-- The characters of a written size are no brackets, no commas and no white space. -/
theorem bare_of_writesSize {length : List Char} {n : Nat} (h : Text.WritesSize length n) :
    ∀ c ∈ length, isOpening c = false ∧ isClosing c = false ∧ Bare c := by
  intro c hc
  rcases h.eq_plus_or_isDigit c hc with rfl | hdigit
  · exact ⟨rfl, rfl, by decide, by decide⟩
  · have hpart : Interface.isNamePart c = true := by
      simp [Interface.isNamePart, Char.isAlphanum, hdigit]
    exact bare_of_isNamePart hpart

namespace Names

variable {s : List Char} {t : Ty}

/-- The characters of names may stand in identifiers. -/
theorem isNamePart (h : Names s t) : ∀ c ∈ s, Interface.isNamePart c = true := by
  have hsized {name digits : List Char} (hname : name.all Interface.isNamePart = true)
      (hdigits : Text.isDecimal digits = true) :
      ∀ c ∈ name ++ digits, Interface.isNamePart c = true :=
    List.forall_mem_append.mpr ⟨List.all_eq_true.mp hname, isNamePart_of_isDecimal hdigits⟩
  cases h with
  | address => exact List.all_eq_true.mp rfl
  | bool => exact List.all_eq_true.mp rfl
  | string => exact List.all_eq_true.mp rfl
  | bytes => exact List.all_eq_true.mp rfl
  | uint => exact List.all_eq_true.mp rfl
  | int => exact List.all_eq_true.mp rfl
  | function => exact List.all_eq_true.mp rfl
  | uintOf decimal => exact hsized rfl decimal
  | intOf decimal => exact hsized rfl decimal
  | bytesOf decimal => exact hsized rfl decimal

/-- No name begins as a tuple does. -/
theorem exists_eq_cons (h : Names s t) :
    ∃ first rest, s = first :: rest ∧ first ≠ 't' ∧ first ≠ '(' := by
  cases h with
  | address => exact ⟨_, _, rfl, by decide, by decide⟩
  | bool => exact ⟨_, _, rfl, by decide, by decide⟩
  | string => exact ⟨_, _, rfl, by decide, by decide⟩
  | bytes => exact ⟨_, _, rfl, by decide, by decide⟩
  | uint => exact ⟨_, _, rfl, by decide, by decide⟩
  | int => exact ⟨_, _, rfl, by decide, by decide⟩
  | function => exact ⟨_, _, rfl, by decide, by decide⟩
  | uintOf decimal => exact ⟨_, _, rfl, by decide, by decide⟩
  | intOf decimal => exact ⟨_, _, rfl, by decide, by decide⟩
  | bytesOf decimal => exact ⟨_, _, rfl, by decide, by decide⟩

/-- A name is not empty. -/
theorem ne_nil (h : Names s t) : s ≠ [] := by
  obtain ⟨first, rest, rfl, -⟩ := h.exists_eq_cons
  exact List.cons_ne_nil _ _

end Names

namespace Spells

variable {s : List Char} {t : Ty}

/-- A text of the grammar has no white space. -/
theorem solid (h : Spells s t) : Text.Solid s := by
  induction h with
  | word name => exact fun c hc => (bare_of_isNamePart (name.isNamePart c hc)).2.2.2
  | array _ ih =>
    have hsuffix : Text.Solid ['[', ']'] := by decide
    exact ih.append hsuffix
  | fixedArray _ written ih =>
    have hopening : Text.Solid ['['] := by decide
    have hclosing : Text.Solid [']'] := by decide
    have hlength : Text.Solid _ := fun c hc => (bare_of_writesSize written c hc).2.2.2
    exact ih.append (hopening.append (hlength.append hclosing))
  | tuple introduction _ ih =>
    have hkeyword : Text.Solid ("tuple".toList) := by decide
    have hopening : Text.Solid ['('] := by decide
    have hclosing : Text.Solid [')'] := by decide
    have hcomma : Text.Solid [','] := by decide
    have hnil : Text.Solid [] := by decide
    have hbody := Text.intercalate_closed hnil (fun _ _ => Text.Solid.append) hcomma
      (List.forall_mem_map.mpr ih)
    have hgroup := hopening.append (hbody.append hclosing)
    rcases introduction with rfl | rfl
    · exact hgroup
    · exact hkeyword.append hgroup

/-- The brackets of such a text match, with no comma and no white space outside of them. -/
theorem bracketed (h : Spells s t) : Bracketed Bare s := by
  have hbare {outside : Char → Prop} (houtside : ∀ c, Bare c → outside c) {word : List Char}
      (h : ∀ c ∈ word, isOpening c = false ∧ isClosing c = false ∧ Bare c) :
      Bracketed outside word :=
    .of_forall fun c hc => ⟨(h c hc).1, (h c hc).2.1, houtside c (h c hc).2.2⟩
  have hword {word : List Char} (h : ∀ c ∈ word, Interface.isNamePart c = true) :
      Bracketed Bare word :=
    hbare (fun _ hc => hc) fun c hc => bare_of_isNamePart (h c hc)
  induction h with
  | word name => exact hword name.isNamePart
  | array _ ih =>
    have hinside : Bracketed (fun _ => True) [] := .nil
    exact ih.append (.group .square hinside .nil)
  | fixedArray _ written ih =>
    have hlength := hbare (fun _ _ => trivial) (bare_of_writesSize written)
    exact ih.append (.group .square hlength .nil)
  | tuple introduction _ ih =>
    have hcomma : Bracketed (fun _ => True) [','] := .char rfl rfl trivial .nil
    have hbody := Text.intercalate_closed .nil (fun _ _ => Bracketed.append) hcomma
      (List.forall_mem_map.mpr fun m hm => (ih m hm).mono fun _ _ => trivial)
    have hgroup : Bracketed Bare _ := .group .round hbody .nil
    have hkeyword : Bracketed Bare "tuple".toList :=
      hword (List.all_eq_true.mp rfl)
    rcases introduction with rfl | rfl
    · exact hgroup
    · exact hkeyword.append hgroup

/-- Such a text is not empty. -/
theorem ne_nil (h : Spells s t) : s ≠ [] := by
  cases h with
  | word name => exact name.ne_nil
  | array _ => simp
  | fixedArray _ _ => simp
  | tuple _ _ => simp

/-- Such a text can stand in a list. -/
theorem component (h : Spells s t) : Component s :=
  ⟨h.ne_nil, h.solid.trimmed, h.bracketed.mono fun _ hc => hc.1⟩

end Spells

/-- Two characters in a row that leave no component out: a comma has one on either side. -/
def Adjoin (a b : Char) : Prop := (b = ',' → a ≠ '(' ∧ a ≠ ',') ∧ (a = ',' → b ≠ ')')

instance (a b : Char) : Decidable (Adjoin a b) := inferInstanceAs (Decidable (_ ∧ _))

/-- A text in which no component is missing, neither inside nor at its ends. -/
structure Filled (s : List Char) : Prop where
  /-- No two characters in a row leave a component out. -/
  inside : s.IsChain Adjoin
  /-- No component is missing in front. -/
  first : ∀ c ∈ s.head?, c ≠ ',' ∧ c ≠ ')'
  /-- No component is missing behind. -/
  last : ∀ c ∈ s.getLast?, c ≠ ',' ∧ c ≠ '('

/-- Two characters in a row between which a component is missing. -/
def componentGaps : List (List Char) := [['(', ','], [',', ','], [',', ')']]

namespace Filled

variable {s t : List Char}

/-- Nothing is missing where there are neither commas nor parentheses. -/
theorem of_forall (h : ∀ c ∈ s, c ≠ ',' ∧ c ≠ '(' ∧ c ≠ ')') : Filled s := by
  have hpairs : s.Pairwise Adjoin := List.pairwise_of_forall_mem_list fun a ha b hb =>
    ⟨fun hcomma => absurd hcomma (h b hb).1, fun hcomma => absurd hcomma (h a ha).1⟩
  refine ⟨hpairs.isChain, fun c hc => ?_, fun c hc => ?_⟩
  · have hc := h c (List.mem_of_mem_head? hc)
    exact ⟨hc.1, hc.2.2⟩
  · have hc := h c (List.mem_of_getLast? hc)
    exact ⟨hc.1, hc.2.1⟩

/-- Nothing is missing between two texts in which nothing is missing. -/
theorem append (hs : Filled s) (ht : Filled t) : Filled (s ++ t) := by
  refine ⟨List.isChain_append.mpr ⟨hs.inside, ht.inside, fun a ha b hb => ?_⟩, ?_, ?_⟩
  · exact ⟨fun hcomma => absurd hcomma (ht.first b hb).1, fun hcomma => absurd hcomma (hs.last a ha).1⟩
  · cases s with
    | nil => exact ht.first
    | cons c rest => exact hs.first
  · intro c hc
    rw [List.getLast?_append] at hc
    cases hlast : t.getLast? with
    | none =>
      rw [hlast, Option.none_or] at hc
      exact hs.last c hc
    | some d =>
      rw [hlast, Option.some_or] at hc
      exact ht.last c (hlast ▸ hc)

/-- Nothing is missing around a comma between two components. -/
theorem comma (hs : Filled s) (ht : Filled t) (hsNe : s ≠ []) (htNe : t ≠ []) :
    Filled (s ++ ',' :: t) := by
  have hbehind : (',' :: t).IsChain Adjoin := List.isChain_cons.mpr
    ⟨fun b hb => ⟨fun hcomma => absurd hcomma (ht.first b hb).1, fun _ => (ht.first b hb).2⟩,
      ht.inside⟩
  have hfront (a : Char) (ha : a ∈ s.getLast?) : Adjoin a ',' :=
    ⟨fun _ => ⟨(hs.last a ha).2, (hs.last a ha).1⟩, fun hcomma => absurd hcomma (hs.last a ha).1⟩
  refine ⟨List.isChain_append.mpr ⟨hs.inside, hbehind, fun a ha b hb => ?_⟩, ?_, ?_⟩
  · obtain rfl : ',' = b := Option.some.inj hb
    exact hfront a ha
  · obtain ⟨c, rest, rfl⟩ := List.exists_cons_of_ne_nil hsNe
    exact hs.first
  · have hlast : (s ++ ',' :: t).getLast? = t.getLast? := by
      rw [List.append_cons, List.getLast?_append_of_ne_nil _ htNe]
    rw [hlast]
    exact ht.last

/-- Nothing is missing in a group of components in which nothing is missing. -/
theorem group (hs : Filled s) : Filled ('(' :: (s ++ [')'])) := by
  have hopening (b : Char) (hb : b ≠ ',') : Adjoin '(' b :=
    ⟨fun hcomma => absurd hcomma hb, fun hcomma => absurd hcomma (by decide)⟩
  have hclosing (a : Char) (ha : a ∈ s.getLast?) : Adjoin a ')' :=
    ⟨fun hcomma => absurd hcomma (by decide), fun hcomma => absurd hcomma (hs.last a ha).1⟩
  have hinside : (s ++ [')']).IsChain Adjoin := by
    refine List.isChain_append.mpr ⟨hs.inside, List.isChain_singleton _, fun a ha b hb => ?_⟩
    obtain rfl : ')' = b := Option.some.inj hb
    exact hclosing a ha
  refine ⟨List.isChain_cons.mpr ⟨fun b hb => hopening b ?_, hinside⟩, ?_, ?_⟩
  · cases s with
    | nil =>
      obtain rfl : ')' = b := Option.some.inj hb
      decide
    | cons c rest => exact (hs.first b hb).1
  · intro c hc
    obtain rfl : '(' = c := Option.some.inj hc
    decide
  · intro c hc
    rw [← List.cons_append, List.getLast?_concat] at hc
    obtain rfl : ')' = c := Option.some.inj hc
    decide

/-- Nothing is missing in components with commas between them. -/
theorem intercalate {parts : List (List Char)} (h : ∀ p ∈ parts, p ≠ [] ∧ Filled p) :
    Filled ([','].intercalate parts) := by
  induction parts with
  | nil => exact of_forall fun c hc => absurd hc List.not_mem_nil
  | cons p rest ih =>
    obtain ⟨hne, hp⟩ := h p List.mem_cons_self
    have hrest := ih fun q hq => h q (List.mem_cons_of_mem _ hq)
    cases rest with
    | nil =>
      rw [List.intercalate_singleton]
      exact hp
    | cons next rest =>
      have hnext := (h next (List.mem_cons_of_mem _ List.mem_cons_self)).1
      have hrestNe : [','].intercalate (next :: rest) ≠ [] := by
        rw [Text.intercalate_cons]
        exact List.append_ne_nil_of_left_ne_nil hnext _
      rw [List.intercalate_cons_cons, List.append_assoc]
      exact hp.comma hrest hne hrestNe

/-- No two characters in a row leave a component out. -/
theorem not_infix (hs : Filled s) {gap : List Char} (hgap : gap ∈ componentGaps) :
    ¬ gap <:+: s := by
  intro hinfix
  have hpair := hs.inside.infix hinfix
  simp only [componentGaps, List.mem_cons, List.not_mem_nil, or_false] at hgap
  rcases hgap with rfl | rfl | rfl
  · exact absurd (List.isChain_pair.mp hpair) (by decide)
  · exact absurd (List.isChain_pair.mp hpair) (by decide)
  · exact absurd (List.isChain_pair.mp hpair) (by decide)

end Filled

/-- Nothing is missing in a text of the grammar. -/
theorem Spells.filled {s : List Char} {t : Ty} (h : Spells s t) : Filled s := by
  have hbare {word : List Char}
      (hw : ∀ c ∈ word, isOpening c = false ∧ isClosing c = false ∧ Bare c) :
      ∀ c ∈ word, c ≠ ',' ∧ c ≠ '(' ∧ c ≠ ')' := by
    refine fun c hc => ⟨(hw c hc).2.2.1, ?_, ?_⟩
    · rintro rfl
      exact absurd (hw _ hc).1 (by decide)
    · rintro rfl
      exact absurd (hw _ hc).2.1 (by decide)
  have hword {word : List Char} (hw : ∀ c ∈ word, Interface.isNamePart c = true) : Filled word :=
    .of_forall (hbare fun c hc => bare_of_isNamePart (hw c hc))
  have hsuffix {length : List Char} (hl : ∀ c ∈ length, c ≠ ',' ∧ c ≠ '(' ∧ c ≠ ')') :
      Filled ('[' :: (length ++ [']'])) :=
    .of_forall (List.forall_mem_cons.mpr ⟨by decide,
      List.forall_mem_append.mpr ⟨hl, List.forall_mem_singleton.mpr (by decide)⟩⟩)
  induction h with
  | word name => exact hword name.isNamePart
  | array _ ih => exact ih.append (hsuffix fun c hc => absurd hc List.not_mem_nil)
  | fixedArray _ written ih => exact ih.append (hsuffix (hbare (bare_of_writesSize written)))
  | tuple introduction spelled ih =>
    have hgroup := (Filled.intercalate (List.forall_mem_map.mpr fun m hm =>
      ⟨(spelled m hm).ne_nil, ih m hm⟩)).group
    rcases introduction with rfl | rfl
    · exact hgroup
    · exact (hword (List.all_eq_true.mp rfl)).append hgroup

end ContractToolkit.Abi
