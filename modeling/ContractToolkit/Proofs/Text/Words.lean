import ContractToolkit.Text.WhiteSpace

/-!
# Words, joined and trimmed texts

What trimming leaves alone, what texts have in common with what they are joined
from, where a character cuts a text, and how words come back from a text in
which a blank stands in front of each of them. A word has no white space in it;
a trimmed text has none at its ends.
-/

namespace ContractToolkit.Text

/-- A text without white space. -/
def Solid (s : List Char) : Prop := ∀ c ∈ s, isBlank c = false

/-- A text of white space only. -/
def Blank (s : List Char) : Prop := ∀ c ∈ s, isBlank c = true

instance (s : List Char) : Decidable (Blank s) := List.decidableBAll _ s

/-- Two texts without white space in a row have none. -/
theorem Solid.append {s t : List Char} (hs : Solid s) (ht : Solid t) : Solid (s ++ t) := by
  intro c hc
  exact (List.mem_append.mp hc).elim (hs c) (ht c)

instance (s : List Char) : Decidable (Solid s) := List.decidableBAll _ s

/-- A text without white space at its ends. -/
structure Trimmed (s : List Char) : Prop where
  /-- The text does not begin with white space. -/
  first : ∀ c ∈ s.head?, isBlank c = false
  /-- The text does not end with white space. -/
  last : ∀ c ∈ s.getLast?, isBlank c = false

instance (s : List Char) : Decidable (Trimmed s) :=
  decidable_of_iff (s.head?.all (!isBlank ·) = true ∧ s.getLast?.all (!isBlank ·) = true) (by
    simp only [Option.all_eq_true, Bool.not_eq_true']
    exact ⟨fun h => ⟨h.1, h.2⟩, fun h => ⟨h.first, h.last⟩⟩)

/-- A text without white space has none at its ends. -/
theorem Solid.trimmed {s : List Char} (h : Solid s) : Trimmed s :=
  ⟨fun c hc => h c (List.mem_of_mem_head? hc), fun c hc => h c (List.mem_of_getLast? hc)⟩

/-- The front of a trimmed text does not begin with white space. -/
theorem Trimmed.head_front {front back : List Char} (h : Trimmed (front ++ back)) :
    ∀ c ∈ front.head?, isBlank c = false := by
  intro c hc
  refine h.first c ?_
  rw [List.head?_append, Option.mem_def.mp hc]
  rfl

/-- The back of a trimmed text does not end with white space. -/
theorem Trimmed.last_back {front back : List Char} (h : Trimmed (front ++ back)) :
    ∀ c ∈ back.getLast?, isBlank c = false := by
  intro c hc
  refine h.last c ?_
  rw [List.getLast?_append, Option.mem_def.mp hc]
  rfl

/-- Texts with a separator between them have every property that the separator and each of them
have and that passes to texts in a row. -/
theorem intercalate_closed {P : List Char → Prop} {separator : List Char}
    {parts : List (List Char)} (nil : P []) (append : ∀ s t, P s → P t → P (s ++ t))
    (hseparator : P separator) (hparts : ∀ p ∈ parts, P p) : P (separator.intercalate parts) := by
  induction parts with
  | nil => exact nil
  | cons p rest ih =>
    have hp := hparts p List.mem_cons_self
    have hrest := ih fun q hq => hparts q (List.mem_cons_of_mem _ hq)
    cases rest with
    | nil =>
      rw [List.intercalate_singleton]
      exact hp
    | cons next rest =>
      rw [List.intercalate_cons_cons]
      exact append _ _ (append _ _ hp hseparator) hrest

/-- Texts with a separator between them are at least as long as each of them. -/
theorem length_le_intercalate {separator part : List Char} {parts : List (List Char)}
    (h : part ∈ parts) : part.length ≤ (separator.intercalate parts).length := by
  induction parts with
  | nil => cases h
  | cons p rest ih =>
    cases rest with
    | nil =>
      rw [List.intercalate_singleton]
      exact Nat.le_of_eq (congrArg List.length (List.mem_singleton.mp h))
    | cons next rest =>
      rw [List.intercalate_cons_cons, List.length_append, List.length_append]
      cases List.mem_cons.mp h with
      | inl hfirst =>
        rw [hfirst]
        omega
      | inr hlater =>
        have hrest := ih hlater
        omega

/-- A text between trimmed ones is inside, whatever it is. -/
theorem Trimmed.append {front back : List Char} (hfront : Trimmed front) (hback : Trimmed back)
    (hfrontNe : front ≠ []) (hbackNe : back ≠ []) (middle : List Char) :
    Trimmed (front ++ middle ++ back) := by
  constructor
  · intro c hc
    cases front with
    | nil => exact absurd rfl hfrontNe
    | cons d rest => exact hfront.first c hc
  · intro c hc
    rw [List.getLast?_append, List.getLast?_eq_some_getLast hbackNe, Option.some_or] at hc
    exact hback.last c (List.getLast?_eq_some_getLast hbackNe ▸ hc)

/-- Trimmed texts with a separator between them are trimmed. -/
theorem trimmed_intercalate (separator : List Char) {parts : List (List Char)}
    (h : ∀ p ∈ parts, p ≠ [] ∧ Trimmed p) : Trimmed (separator.intercalate parts) := by
  induction parts with
  | nil =>
    have hnil : Solid [] := by decide
    exact hnil.trimmed
  | cons p rest ih =>
    obtain ⟨hpNe, hp⟩ := h p List.mem_cons_self
    have hrest := ih fun q hq => h q (List.mem_cons_of_mem _ hq)
    cases rest with
    | nil =>
      rw [List.intercalate_singleton]
      exact hp
    | cons next rest =>
      have hnext := (h next (List.mem_cons_of_mem _ List.mem_cons_self)).1
      have hlength : next.length ≤ (separator.intercalate (next :: rest)).length :=
        length_le_intercalate List.mem_cons_self
      have hrestNe : separator.intercalate (next :: rest) ≠ [] := by
        intro hnil
        rw [hnil, List.length_nil, Nat.le_zero, List.length_eq_zero_iff] at hlength
        exact hnext hlength
      rw [List.intercalate_cons_cons]
      exact hp.append hrest hpNe hrestNe separator

/-- Texts with a separator between them are the first of them and all others, each behind a
separator. -/
theorem intercalate_cons (separator p : List Char) (rest : List (List Char)) :
    separator.intercalate (p :: rest) = p ++ rest.flatMap (separator ++ ·) := by
  induction rest generalizing p with
  | nil => rw [List.intercalate_singleton, List.flatMap_nil, List.append_nil]
  | cons next rest ih =>
    rw [List.intercalate_cons_cons, ih, List.flatMap_cons]
    simp

/-- Each text of a list is in the texts with a separator between them. -/
theorem mem_intercalate {separator part : List Char} {parts : List (List Char)} {c : Char}
    (hpart : part ∈ parts) (hc : c ∈ part) : c ∈ separator.intercalate parts := by
  cases parts with
  | nil => cases hpart
  | cons first rest =>
    rw [intercalate_cons]
    cases List.mem_cons.mp hpart with
    | inl hfirst => exact List.mem_append_left _ (hfirst ▸ hc)
    | inr hlater =>
      have hbehind : c ∈ separator ++ part := List.mem_append_right _ hc
      exact List.mem_append_right _ (List.mem_flatMap.mpr ⟨part, hlater, hbehind⟩)

/-- The scanner for a character passes over a text without it. -/
theorem bne_of_not_mem {c : Char} {s : List Char} (h : c ∉ s) : ∀ d ∈ s, (d != c) = true :=
  fun _ hd => bne_iff_ne.mpr fun heq => h (heq ▸ hd)

/-- The first occurrence of a character cuts a text in one way only. -/
theorem append_cons_inj {c : Char} {front other rest behind : List Char} (hfront : c ∉ front)
    (hother : c ∉ other) (h : front ++ c :: rest = other ++ c :: behind) :
    front = other ∧ rest = behind := by
  induction front generalizing other with
  | nil =>
    cases other with
    | nil => exact ⟨rfl, (List.cons.inj h).2⟩
    | cons d other =>
      obtain ⟨rfl, -⟩ := List.cons.inj h
      exact absurd List.mem_cons_self hother
  | cons d front ih =>
    cases other with
    | nil =>
      obtain ⟨rfl, -⟩ := List.cons.inj h
      exact absurd List.mem_cons_self hfront
    | cons e other =>
      obtain ⟨rfl, htail⟩ := List.cons.inj h
      obtain ⟨rfl, hrest⟩ := ih (fun hc => hfront (List.mem_cons_of_mem _ hc))
        (fun hc => hother (List.mem_cons_of_mem _ hc)) htail
      exact ⟨rfl, hrest⟩

/-- A word with further words behind it, each behind a blank, is trimmed. -/
theorem trimmed_flatMap {first : List Char} {ws : List (List Char)} (hfirst : Solid first)
    (hfirstNe : first ≠ []) (h : ∀ w ∈ ws, w ≠ [] ∧ Solid w) :
    Trimmed (first ++ ws.flatMap (' ' :: ·)) := by
  have hparts : ∀ w ∈ first :: ws, w ≠ [] ∧ Trimmed w := by
    intro w hw
    cases List.mem_cons.mp hw with
    | inl hw => exact hw ▸ ⟨hfirstNe, hfirst.trimmed⟩
    | inr hw => exact ⟨(h w hw).1, (h w hw).2.trimmed⟩
  exact intercalate_cons [' '] first ws ▸ trimmed_intercalate [' '] hparts

/-- Leading white space is dropped. -/
theorem trimStart_append {gap : List Char} (hgap : Blank gap) (s : List Char) :
    trimStart (gap ++ s) = trimStart s :=
  List.dropWhile_append_of_pos hgap

/-- A text that does not begin with white space has none to drop there. -/
theorem trimStart_eq {s : List Char} (h : ∀ c ∈ s.head?, isBlank c = false) : trimStart s = s := by
  cases s with
  | nil => rfl
  | cons c rest =>
    have hc := h c rfl
    exact List.dropWhile_cons_of_neg (by simp [hc])

/-- A trimmed text has no white space to drop in front. -/
theorem Trimmed.trimStart_eq {s : List Char} (h : Trimmed s) : trimStart s = s :=
  Text.trimStart_eq h.first

/-- A text that does not end with white space has none to drop there. -/
theorem Trimmed.trimEnd_eq {s : List Char} (h : Trimmed s) : trimEnd s = s := by
  rw [trimEnd]
  cases hreverse : s.reverse with
  | nil =>
    rw [List.reverse_eq_nil_iff.mp hreverse]
    rfl
  | cons c rest =>
    have hlast : s.getLast? = some c := by
      rw [← List.head?_reverse, hreverse]
      rfl
    have hc := h.last c hlast
    rw [List.dropWhile_cons_of_neg (by simp [hc]), ← hreverse, List.reverse_reverse]

/-- White space at the end is dropped. -/
theorem trimEnd_append (s : List Char) {gap : List Char} (hgap : Blank gap) :
    trimEnd (s ++ gap) = trimEnd s := by
  have hreverse : ∀ c ∈ gap.reverse, isBlank c = true := fun c hc => hgap c (List.mem_reverse.mp hc)
  rw [trimEnd, trimEnd, List.reverse_append, List.dropWhile_append_of_pos hreverse]

/-- Only white space is dropped at the end. -/
theorem exists_eq_trimEnd_append (s : List Char) : ∃ gap, Blank gap ∧ s = trimEnd s ++ gap := by
  refine ⟨(s.reverse.takeWhile isBlank).reverse, fun c hc => ?_, ?_⟩
  · exact List.all_eq_true.mp List.all_takeWhile c (List.mem_reverse.mp hc)
  · rw [trimEnd, ← List.reverse_append, List.takeWhile_append_dropWhile, List.reverse_reverse]

/-- Trimming leaves a trimmed text alone, and drops white space in front of it. -/
theorem Trimmed.trim_append {s : List Char} (h : Trimmed s) (gap : List Char)
    (hgap : Blank gap) : trim (gap ++ s) = s := by
  rw [trim, trimStart_append hgap, h.trimStart_eq, h.trimEnd_eq]

/-- Trimming leaves a trimmed text alone. -/
theorem Trimmed.trim_eq {s : List Char} (h : Trimmed s) : trim s = s :=
  h.trim_append [] (by decide)

/-- Trimming drops white space around a trimmed text. -/
theorem Trimmed.trim_padded {front s back : List Char} (h : Trimmed s) (hfront : Blank front)
    (hback : Blank back) : trim (front ++ s ++ back) = s := by
  have hstart : trimEnd (trimStart (s ++ back)) = s := by
    cases s with
    | nil =>
      have hnothing := trimStart_append hback []
      rw [List.append_nil] at hnothing
      rw [List.nil_append, hnothing]
      rfl
    | cons c rest =>
      have hfirst : ∀ d ∈ (c :: rest ++ back).head?, isBlank d = false := h.first
      rw [Text.trimStart_eq hfirst, trimEnd_append _ hback, h.trimEnd_eq]
  rw [List.append_assoc, trim, trimStart_append hfront, hstart]

/-- Trimming only leaves characters out. -/
theorem trim_sublist (s : List Char) : (trim s).Sublist s := by
  have hend := List.dropWhile_sublist isBlank (l := (trimStart s).reverse)
  have hreversed := hend.reverse
  rw [List.reverse_reverse] at hreversed
  exact hreversed.trans (List.dropWhile_sublist isBlank)

/-- Trimming leaves only characters of the text. -/
theorem mem_of_mem_trim {s : List Char} {c : Char} (h : c ∈ trim s) : c ∈ s :=
  (trim_sublist s).subset h

/-- A trimmed text is no longer than the text. -/
theorem length_trim_le (s : List Char) : (trim s).length ≤ s.length := (trim_sublist s).length_le

/-- Only white space is dropped at the ends. -/
theorem exists_eq_append_trim (s : List Char) :
    ∃ front back, Blank front ∧ Blank back ∧ s = front ++ trim s ++ back := by
  obtain ⟨back, hback, hend⟩ := exists_eq_trimEnd_append (trimStart s)
  refine ⟨s.takeWhile isBlank, back, List.all_eq_true.mp List.all_takeWhile, hback, ?_⟩
  rw [trim, List.append_assoc, ← hend]
  exact List.takeWhile_append_dropWhile.symm

/-- Only white space at the end is dropped from a text that does not begin with any. -/
theorem exists_eq_trim_append {s : List Char} (h : ∀ c ∈ s.head?, isBlank c = false) :
    ∃ gap, Blank gap ∧ s = trim s ++ gap := by
  obtain ⟨gap, hgap, hs⟩ := exists_eq_trimEnd_append s
  exact ⟨gap, hgap, by rwa [trim, trimStart_eq h]⟩

/-- Only white space in front is dropped from a text that does not end with any. -/
theorem exists_eq_gap_append_trim {s : List Char} (h : ∀ c ∈ s.getLast?, isBlank c = false) :
    ∃ gap, Blank gap ∧ s = gap ++ trim s := by
  obtain ⟨gap, back, hgap, hback, hs⟩ := exists_eq_append_trim s
  refine ⟨gap, hgap, ?_⟩
  cases hlast : back.getLast? with
  | none => rwa [List.getLast?_eq_none_iff.mp hlast, List.append_nil] at hs
  | some c =>
    have hc : c ∈ s.getLast? := by
      rw [hs, List.getLast?_append, hlast]
      rfl
    exact absurd (h c hc) (by simp [hback c (List.mem_of_getLast? hlast)])

/-- A character of a text is white space or still there when the text is trimmed. -/
theorem isBlank_or_mem_trim {s : List Char} {c : Char} (h : c ∈ s) :
    isBlank c = true ∨ c ∈ trim s := by
  obtain ⟨front, back, hfront, hback, hs⟩ := exists_eq_append_trim s
  rw [hs] at h
  rcases List.mem_append.mp h with h | h
  · exact (List.mem_append.mp h).imp_left (hfront c)
  · exact Or.inl (hback c h)

/-- What is left behind leading white space does not begin with any. -/
theorem head?_trimStart (s : List Char) : ∀ c ∈ (trimStart s).head?, isBlank c = false := by
  intro c hc
  have hfirst := List.head?_dropWhile_not isBlank s
  rw [trimStart] at hc
  rw [Option.mem_def.mp hc] at hfirst
  simpa using hfirst

/-- Trimming gives a trimmed text. -/
theorem trimmed_trim (s : List Char) : Trimmed (trim s) := by
  constructor
  · intro c hc
    have hprefix : trim s <+: trimStart s := by
      rw [← List.reverse_suffix, trim, trimEnd, List.reverse_reverse]
      exact List.dropWhile_suffix isBlank
    obtain ⟨behind, hbehind⟩ := hprefix
    refine head?_trimStart s c ?_
    rw [← hbehind, List.head?_append, Option.mem_def.mp hc]
    rfl
  · intro c hc
    rw [trim, trimEnd, List.getLast?_reverse] at hc
    exact head?_trimStart (trimStart s).reverse c hc

/-- A word under way takes what follows up to the next white space. -/
theorem wordsFrom_append {word : List Char} (h : Solid word) (current rest : List Char) :
    wordsFrom current (word ++ rest) = wordsFrom (word.reverse ++ current) rest := by
  induction word generalizing current with
  | nil => rfl
  | cons c word ih =>
    have hc := h c List.mem_cons_self
    rw [List.cons_append, wordsFrom, hc, if_neg Bool.false_ne_true,
      ih fun d hd => h d (List.mem_cons_of_mem _ hd)]
    simp

/-- A character of a text that is no white space is in a word, and so is the word under way. -/
theorem exists_word_of_mem {c : Char} {s : List Char} (current : List Char)
    (h : c ∈ current ∨ (c ∈ s ∧ isBlank c = false)) : ∃ w ∈ wordsFrom current s, c ∈ w := by
  induction s generalizing current with
  | nil =>
    have hcurrent : c ∈ current := h.resolve_right fun hc => List.not_mem_nil hc.1
    have hne : current.isEmpty = false := by
      rw [List.isEmpty_eq_false_iff]
      exact List.ne_nil_of_mem hcurrent
    rw [wordsFrom, hne, if_neg Bool.false_ne_true]
    exact ⟨_, List.mem_singleton_self _, List.mem_reverse.mpr hcurrent⟩
  | cons d rest ih =>
    rw [wordsFrom]
    by_cases hd : isBlank d = true
    · have hrest : c ∈ current ∨ (c ∈ rest ∧ isBlank c = false) := by
        refine h.imp_right fun ⟨hmem, hc⟩ => ⟨(List.mem_cons.mp hmem).resolve_left ?_, hc⟩
        rintro rfl
        exact Bool.false_ne_true (hc.symm.trans hd)
      rw [if_pos hd]
      cases current with
      | nil => exact ih [] hrest
      | cons e current =>
        rw [List.isEmpty_cons, if_neg Bool.false_ne_true]
        cases hrest with
        | inl hword => exact ⟨_, List.mem_cons_self, List.mem_reverse.mpr hword⟩
        | inr hlater =>
          obtain ⟨w, hw, hc⟩ := ih [] (Or.inr hlater)
          exact ⟨w, List.mem_cons_of_mem _ hw, hc⟩
    · rw [if_neg hd]
      refine ih (d :: current) ?_
      rcases h with hword | ⟨hmem, hc⟩
      · exact Or.inl (List.mem_cons_of_mem _ hword)
      · cases List.mem_cons.mp hmem with
        | inl hfirst => exact Or.inl (hfirst ▸ List.mem_cons_self)
        | inr hlater => exact Or.inr ⟨hlater, hc⟩

/-- A word under way is the first word, with whatever follows up to the next white space. -/
theorem headD_wordsFrom {current : List Char} (h : current ≠ []) (s : List Char) :
    ∃ more, (wordsFrom current s).headD [] = current.reverse ++ more := by
  have hcurrent : current.isEmpty = false := by simpa using h
  induction s generalizing current with
  | nil =>
    refine ⟨[], ?_⟩
    rw [wordsFrom, hcurrent, List.append_nil]
    rfl
  | cons c rest ih =>
    rw [wordsFrom]
    by_cases hc : isBlank c = true
    · refine ⟨[], ?_⟩
      rw [if_pos hc, hcurrent, List.append_nil]
      rfl
    · obtain ⟨more, hmore⟩ := ih (List.cons_ne_nil c current) rfl
      refine ⟨c :: more, ?_⟩
      rw [if_neg hc, hmore]
      simp

/-- A word under way ends where the next one begins with its gap. -/
theorem wordsFrom_flatMap {ws : List (List Char)} (h : ∀ w ∈ ws, w ≠ [] ∧ Solid w)
    (current : List Char) :
    wordsFrom current (ws.flatMap (' ' :: ·)) =
      (if current.isEmpty then [] else [current.reverse]) ++ ws := by
  have hblank : isBlank ' ' = true := by decide
  induction ws generalizing current with
  | nil => simp [wordsFrom]
  | cons w rest ih =>
    obtain ⟨hne, hsolid⟩ := h w List.mem_cons_self
    have hword : (w.reverse ++ []).isEmpty = false := by simpa using hne
    have hrest := ih (fun v hv => h v (List.mem_cons_of_mem _ hv)) (w.reverse ++ [])
    rw [hword, if_neg Bool.false_ne_true, List.append_nil, List.reverse_reverse] at hrest
    rw [List.flatMap_cons, List.cons_append, wordsFrom, if_pos hblank, wordsFrom_append hsolid,
      List.append_nil, hrest]
    cases current with
    | nil => rfl
    | cons c current => rfl

/-- Words with white space in front of each of them are the words of the text. -/
theorem words_flatMap {ws : List (List Char)} (h : ∀ w ∈ ws, w ≠ [] ∧ Solid w) :
    words (ws.flatMap (' ' :: ·)) = ws :=
  wordsFrom_flatMap h []

end ContractToolkit.Text
