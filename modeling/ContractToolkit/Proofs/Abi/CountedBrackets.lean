import ContractToolkit.Abi.Cuts
import ContractToolkit.Proofs.Abi.Lists
import ContractToolkit.Proofs.Text.Positions

/-!
# Brackets counted by the machine

The machine cuts a list at octet positions and counts the open brackets in a
counter of 32 bits. As long as the counter is not full it finds the components
that the characters have, and cutting takes apart what joining put together. A
checked machine stops exactly at the texts that fill the counter; a wrapping one
goes on with a count that is wrong and may refuse a text whose brackets match.
-/

namespace ContractToolkit.Abi

open Text

/-! ### Full counters -/

/-- A text that fills the counter: at some place more brackets are open than can be counted, `depth`
of them from the start, and up to there none is closed that was not opened before. -/
def Overruns (depth : Int) (s : List Char) : Prop :=
  ∃ front, front <+: s ∧ Machine.countLimit ≤ depth + openBrackets front ∧
    ∀ earlier, earlier <+: front → 0 ≤ depth + openBrackets earlier

variable {s rest : List Char} {c : Char}

/-- A negative number of open brackets is not counted further. -/
theorem Overruns.nonneg {depth : Int} (h : Overruns depth s) : 0 ≤ depth := by
  obtain ⟨front, -, -, hnonneg⟩ := h
  simpa using hnonneg [] List.nil_prefix

/-- More brackets than can be counted are open from the start. -/
theorem Overruns.of_full {depth : Int} (h : Machine.countLimit ≤ depth) (s : List Char) :
    Overruns depth s := by
  refine ⟨[], List.nil_prefix, by simpa using h, fun earlier hearlier => ?_⟩
  rw [List.prefix_nil.mp hearlier, openBrackets_nil]
  omega

/-- The counter is full at the start, or is filled behind the first character. -/
theorem overruns_cons {depth : Int} : Overruns depth (c :: rest) ↔
    0 ≤ depth ∧ (Machine.countLimit ≤ depth ∨ Overruns (depth + bracketStep c) rest) := by
  constructor
  · intro h
    refine ⟨h.nonneg, ?_⟩
    obtain ⟨front, hfront, hfull, hnonneg⟩ := h
    rcases List.prefix_cons_iff.mp hfront with rfl | ⟨front, rfl, hrest⟩
    · exact Or.inl (by simpa using hfull)
    · rw [add_openBrackets_cons] at hfull
      exact Or.inr ⟨front, hrest, hfull, (forall_prefix_cons.mp hnonneg).2⟩
  · rintro ⟨hdepth, hfull | ⟨front, hfront, hfull, hnonneg⟩⟩
    · exact .of_full hfull _
    · rw [← add_openBrackets_cons] at hfull
      exact ⟨c :: front, (List.prefix_cons_inj c).mpr hfront, hfull,
        forall_prefix_cons.mpr ⟨hdepth, hnonneg⟩⟩

/-- Nothing behind the start of an empty text fills the counter. -/
theorem not_overruns_nil {depth : Int} (h : depth < Machine.countLimit) : ¬ Overruns depth [] := by
  rintro ⟨front, hfront, hfull, -⟩
  rw [List.prefix_nil.mp hfront, openBrackets_nil] at hfull
  omega

/-- A text opens and closes at most as many brackets as it has octets. -/
theorem openBrackets_bounds (s : List Char) :
    -octetCount s ≤ openBrackets s ∧ openBrackets s ≤ octetCount s := by
  induction s with
  | nil => exact ⟨Int.le_refl 0, Int.le_refl 0⟩
  | cons c rest ih =>
    have hstep : -1 ≤ bracketStep c ∧ bracketStep c ≤ 1 := by
      rw [bracketStep]
      split
      · decide
      · split <;> decide
    have hsize := c.utf8Size_pos
    rw [openBrackets_cons, octetCount_cons]
    omega

/-- A text with a number of open brackets in the range of a counter at every place, `depth` of them
being open from the start. -/
def CountsFit (depth : Int) (s : List Char) : Prop :=
  ∀ front, front <+: s → -Machine.countLimit ≤ depth + openBrackets front ∧
    depth + openBrackets front < Machine.countLimit

/-- The brackets of a text with fewer octets than can be counted are counted. -/
theorem countsFit_of_octets (h : octetCount s < Machine.countLimit) : CountsFit 0 s := by
  intro front hfront
  have hopen := openBrackets_bounds front
  have hoctets := octetCount_le_of_sublist hfront.sublist
  omega

/-- Such a text does not fill the counter. -/
theorem CountsFit.not_overruns {depth : Int} (h : CountsFit depth s) : ¬ Overruns depth s := by
  rintro ⟨front, hfront, hfull, -⟩
  exact absurd (h front hfront).2 (Int.not_lt.mpr hfull)

/-- A text in which the machine counts. -/
structure Countable (s : List Char) : Prop where
  /-- Its positions are sizes. -/
  octets : octetCount s < Machine.sizeLimit
  /-- It does not fill the counter. -/
  brackets : ¬ Overruns 0 s

/-- The machine counts in a text with fewer octets than can be counted. -/
theorem Countable.of_octets (h : octetCount s < Machine.countLimit) : Countable s :=
  ⟨Nat.lt_trans h (by decide), (countsFit_of_octets h).not_overruns⟩

/-! ### Components -/

variable {a : Machine.Arithmetic} {text : List Char} {parts : List (List Char)}

/-- The components of a list whose pieces are trimmed: a single blank one is none. -/
def listed (parts : List (List Char)) : List (List Char) := if parts = [[]] then [] else parts

/-- The last component is not listed if it is blank and the only one. -/
theorem listed_append (parts : List (List Char)) (last : List Char) :
    listed (parts ++ [last]) = if last ≠ [] ∨ parts ≠ [] then parts ++ [last] else parts := by
  cases parts with
  | nil => by_cases hlast : last = [] <;> simp [listed, hlast]
  | cons first others => simp [listed]

/-- The components are those that are listed, unless one of them is blank. -/
theorem components_eq_listed (s : List Char) : components s =
    match (piecesFrom 0 [] s).map fun pieces => listed (pieces.map trim) with
    | none => .error (.unbalancedParentheses (String.ofList s))
    | some parts =>
      if parts.any List.isEmpty then .error (.emptyComponent (String.ofList s)) else .ok parts := by
  rw [components]
  cases piecesFrom 0 [] s with
  | none => rfl
  | some pieces =>
    rw [Option.map_some]
    dsimp only
    by_cases hblank : pieces.map trim = [[]]
    · rw [hblank]
      rfl
    · rw [listed, if_neg hblank]
      split
      · contradiction
      · rfl

/-- The machine counts an opening bracket. -/
theorem cutFrom_opening {depth start position : Nat} {others : List (Nat × Char)}
    (h : isOpening c = true) (hdeeper : depth + 1 < Machine.countLimit) :
    cutFrom a text depth start parts ((position, c) :: others) =
      cutFrom a text (depth + 1 : Nat) start parts others := by
  have hcount := counted_of_fits (n := depth + 1) (by omega) (by omega) a
  rw [cutFrom, if_pos h, hcount]
  rfl

/-- A checked machine stops at the opening bracket that fills the counter. -/
theorem cutFrom_opening_full {depth start position : Nat} {others : List (Nat × Char)}
    (h : isOpening c = true) (hfull : Machine.countLimit ≤ depth + 1) :
    cutFrom .checked text depth start parts ((position, c) :: others) = .error .overflow := by
  have hcount := counted_checked_of_limit_le (n := depth + 1) (by omega)
  rw [cutFrom, if_pos h, hcount]
  rfl

/-- The machine takes a closing bracket off the count. -/
theorem cutFrom_closing {depth start position : Nat} {others : List (Nat × Char)}
    (h : isClosing c = true) (hdepth : depth < Machine.countLimit) :
    cutFrom a text (depth + 1 : Nat) start parts ((position, c) :: others) =
      cutFrom a text depth start parts others := by
  have hcount := counted_of_fits (n := depth) (by omega) (by omega) a
  have hleft : ¬ (depth : Int) < 0 := Int.not_lt.mpr (Int.natCast_nonneg depth)
  rw [cutFrom, if_neg (not_isOpening_of_isClosing h), if_pos h, Int.natCast_succ,
    Int.add_sub_cancel, hcount]
  change (if (depth : Int) < 0 then .ok none else cutFrom a text depth start parts others) = _
  rw [if_neg hleft]

/-- A closing bracket does not match where none is open. -/
theorem cutFrom_closing_zero {start position : Nat} {others : List (Nat × Char)}
    (h : isClosing c = true) :
    cutFrom a text 0 start parts ((position, c) :: others) = .ok none := by
  have hcount := counted_of_fits (n := 0 - 1) (by decide) (by decide) a
  rw [cutFrom, if_neg (not_isOpening_of_isClosing h), if_pos h, hcount]
  rfl

/-- The machine passes over a character that is not cut at. -/
theorem cutFrom_other {depth start position : Nat} {others : List (Nat × Char)}
    (noOpening : isOpening c = false) (noClosing : isClosing c = false)
    (hcut : ¬ (c = ',' ∧ depth = 0)) :
    cutFrom a text depth start parts ((position, c) :: others) =
      cutFrom a text depth start parts others := by
  have hpassed : ¬ (c = ',' ∧ (depth : Int) = 0) := fun h =>
    hcut ⟨h.1, Int.ofNat_eq_zero.mp h.2⟩
  rw [cutFrom, noOpening, noClosing, if_neg Bool.false_ne_true, if_neg Bool.false_ne_true,
    if_neg hpassed]

/-- At a comma outside of all brackets the machine makes a component of what is between the last
cut and the comma. -/
theorem cutFrom_comma {done piece : List Char} (htext : text = done ++ piece ++ ',' :: rest) :
    cutFrom a text 0 (octetCount done) parts (positioned (octetCount (done ++ piece)) (',' :: rest)) =
      plus (octetCount (done ++ piece)) 1 >>= fun next =>
        cutFrom a text 0 next (parts ++ [trim piece])
          (positioned (octetCount (done ++ piece) + 1) rest) := by
  have hslice : slice text (octetCount done) (octetCount (done ++ piece)) = .ok piece := by
    rw [htext]
    exact slice_append done piece (',' :: rest)
  rw [positioned, cutFrom, if_neg (by decide), if_neg (by decide), if_pos ⟨rfl, rfl⟩, hslice]
  rfl

/-- At the end the machine makes a component of what is behind the last cut. -/
theorem cutFrom_end {done piece : List Char} (htext : text = done ++ piece) :
    cutFrom a text 0 (octetCount done) parts [] = .ok (some (listed (parts ++ [trim piece]))) := by
  have hslice : slice text (octetCount done) (octetCount text) = .ok piece := by
    rw [htext]
    exact slice_behind done piece
  rw [cutFrom, if_neg (by decide), hslice, listed_append]
  rfl

/-- A character that is passed over stands at the end of the piece under way. -/
theorem text_moved {done current : List Char} (htext : text = done ++ current.reverse ++ c :: rest) :
    text = done ++ (c :: current).reverse ++ rest ∧
      octetCount (done ++ current.reverse) + c.utf8Size =
        octetCount (done ++ (c :: current).reverse) := by
  constructor
  · simp [htext]
  · simp [Nat.add_assoc]

/-- A comma that is cut at stands in front of an empty piece under way. -/
theorem text_cut {done current : List Char} (htext : text = done ++ current.reverse ++ ',' :: rest) :
    text = (done ++ current.reverse ++ [',']) ++ [].reverse ++ rest ∧
      octetCount (done ++ current.reverse) + 1 =
        octetCount (done ++ current.reverse ++ [',']) := by
  have hcomma : ','.utf8Size = 1 := rfl
  constructor
  · simp [htext]
  · simp [hcomma, Nat.add_assoc]

/-- The machine finds the components that the characters have, as long as the counter is not full.
What is in front is cut off up to the piece under way, with `current` in reverse. -/
theorem yields_cutFrom {depth : Nat} (parts : List (List Char)) (done current : List Char)
    (htext : text = done ++ current.reverse ++ s) (hdepth : depth < Machine.countLimit)
    (hfits : ¬ Overruns depth s) :
    Yields (octetCount text)
      (cutFrom a text depth (octetCount done) parts
        (positioned (octetCount (done ++ current.reverse)) s))
      ((piecesFrom depth current s).map fun pieces => listed (parts ++ pieces.map trim)) := by
  induction s generalizing depth done current parts with
  | nil =>
    cases depth with
    | zero =>
      rw [List.append_nil] at htext
      exact .of_eq (cutFrom_end htext)
    | succ depth => exact .ok _
  | cons c rest ih =>
    obtain ⟨hmoved, hposition⟩ := text_moved htext
    have hrest : ¬ Overruns (depth + bracketStep c) rest := fun hrest =>
      hfits (overruns_cons.mpr ⟨Int.natCast_nonneg depth, Or.inr hrest⟩)
    rw [piecesFrom_cons]
    by_cases hopening : isOpening c = true
    · rw [bracketStep_of_opening hopening] at hrest
      have hdeeper : (depth : Int) + 1 < Machine.countLimit :=
        Int.not_le.mp fun hfull => hrest (.of_full hfull rest)
      rw [positioned, cutFrom_opening hopening (Int.ofNat_lt.mp hdeeper), if_pos hopening, hposition]
      exact ih parts done _ hmoved (Int.ofNat_lt.mp hdeeper) hrest
    by_cases hclosing : isClosing c = true
    · rw [bracketStep_of_closing hclosing] at hrest
      rw [if_neg hopening, if_pos hclosing]
      cases depth with
      | zero => exact .of_eq (cutFrom_closing_zero hclosing)
      | succ depth =>
        have hleft : depth < Machine.countLimit := Nat.lt_of_succ_lt hdepth
        rw [Int.natCast_succ, Int.add_neg_cancel_right] at hrest
        rw [positioned, cutFrom_closing hclosing hleft, hposition]
        exact ih parts done _ hmoved hleft hrest
    have noOpening := Bool.eq_false_iff.mpr hopening
    have noClosing := Bool.eq_false_iff.mpr hclosing
    rw [bracketStep_of_other noOpening noClosing, Int.add_zero] at hrest
    rw [if_neg hopening, if_neg hclosing]
    by_cases hcut : c = ',' ∧ depth = 0
    · obtain ⟨rfl, rfl⟩ := hcut
      obtain ⟨hbehind, hnext⟩ := text_cut htext
      have hsum : Yields (octetCount text) (plus (octetCount (done ++ current.reverse)) 1)
          (octetCount (done ++ current.reverse) + 1) := by
        refine .plus ?_
        rw [hnext, htext]
        exact octetCount_le_of_sublist (by simp)
      have hlater := ih (parts ++ [trim current.reverse]) _ [] hbehind hdepth hrest
      have hpieces : ((piecesFrom 0 [] rest).map (current.reverse :: ·)).map
          (fun pieces => listed (parts ++ pieces.map trim)) = (piecesFrom 0 [] rest).map
            fun pieces => listed (parts ++ [trim current.reverse] ++ pieces.map trim) := by
        simp [Function.comp_def]
      rw [List.reverse_nil, List.append_nil, ← hnext] at hlater
      rw [if_pos ⟨rfl, rfl⟩, Int.ofNat_zero, cutFrom_comma htext, hpieces]
      exact hsum.bind hlater
    · rw [positioned, cutFrom_other noOpening noClosing hcut, if_neg hcut, hposition]
      exact ih parts done _ hmoved hdepth hrest

/-- A checked machine stops in a text that fills the counter. -/
theorem cutFrom_of_overruns {depth : Nat} (parts : List (List Char)) (done current : List Char)
    (htext : text = done ++ current.reverse ++ s) (hdepth : depth < Machine.countLimit)
    (h : Overruns depth s) :
    cutFrom .checked text depth (octetCount done) parts
      (positioned (octetCount (done ++ current.reverse)) s) = .error .overflow := by
  induction s generalizing depth done current parts with
  | nil => exact absurd h (not_overruns_nil (Int.ofNat_lt.mpr hdepth))
  | cons c rest ih =>
    obtain ⟨hmoved, hposition⟩ := text_moved htext
    obtain ⟨-, hfull | hrest⟩ := overruns_cons.mp h
    · exact absurd hfull (Int.not_le.mpr (Int.ofNat_lt.mpr hdepth))
    by_cases hopening : isOpening c = true
    · rw [bracketStep_of_opening hopening] at hrest
      rw [positioned]
      by_cases hdeeper : depth + 1 < Machine.countLimit
      · rw [cutFrom_opening hopening hdeeper, hposition]
        exact ih parts done _ hmoved hdeeper hrest
      · exact cutFrom_opening_full hopening (Nat.not_lt.mp hdeeper)
    by_cases hclosing : isClosing c = true
    · rw [bracketStep_of_closing hclosing] at hrest
      cases depth with
      | zero => exact absurd hrest.nonneg (by decide)
      | succ depth =>
        have hleft : depth < Machine.countLimit := Nat.lt_of_succ_lt hdepth
        rw [Int.natCast_succ, Int.add_neg_cancel_right] at hrest
        rw [positioned, cutFrom_closing hclosing hleft, hposition]
        exact ih parts done _ hmoved hleft hrest
    have noOpening := Bool.eq_false_iff.mpr hopening
    have noClosing := Bool.eq_false_iff.mpr hclosing
    rw [bracketStep_of_other noOpening noClosing, Int.add_zero] at hrest
    by_cases hcut : c = ',' ∧ depth = 0
    · obtain ⟨rfl, rfl⟩ := hcut
      obtain ⟨hbehind, hnext⟩ := text_cut htext
      have hlater := ih (parts ++ [trim current.reverse]) _ [] hbehind hdepth hrest
      rw [List.reverse_nil, List.append_nil, ← hnext] at hlater
      rw [Int.ofNat_zero, cutFrom_comma htext, plus]
      -- The position behind the comma is a size, or no size; that is an overflow as well.
      split
      · rename_i hsum
        rw [(Machine.add?_eq_some.mp hsum).1]
        exact hlater
      · rfl
    · rw [positioned, cutFrom_other noOpening noClosing hcut, hposition]
      exact ih parts done _ hmoved hdepth hrest

/-- The machine finds the components of a text in which it counts. -/
theorem cutComponents_eq (h : Countable s) (a : Machine.Arithmetic) :
    cutComponents a s = .ok (components s) := by
  have hcut : Yields (octetCount s) (cutFrom a s 0 0 [] (positioned 0 s))
      ((piecesFrom 0 [] s).map fun pieces => listed (pieces.map trim)) :=
    yields_cutFrom [] [] [] rfl (by decide) h.brackets
  rw [cutComponents, hcut.eq_ok h.octets, components_eq_listed]
  cases (piecesFrom 0 [] s).map fun pieces => listed (pieces.map trim) with
  | none => rfl
  | some parts =>
    change (if parts.any List.isEmpty then Except.ok _ else Except.ok _) = _
    exact (apply_ite Except.ok _ _ _).symm

/-- A checked machine stops exactly at the texts that fill the counter. -/
theorem cutComponents_checked_iff (h : octetCount s < Machine.sizeLimit) :
    cutComponents .checked s = .error .overflow ↔ Overruns 0 s := by
  constructor
  · intro hstop
    by_cases hfull : Overruns 0 s
    · exact hfull
    · rw [cutComponents_eq ⟨h, hfull⟩] at hstop
      cases hstop
  · intro hfull
    have hcut : cutFrom .checked s 0 0 [] (positioned 0 s) = .error .overflow :=
      cutFrom_of_overruns [] [] [] rfl (by decide) hfull
    rw [cutComponents, hcut]
    rfl

/-- Lists, cut and joined by a machine of either arithmetic. Components with a comma and a blank
between them come back from the list. A text is cut into components exactly where it was joined from
them, with white space at will at its ends and next to the commas; white space alone has no
components. A text is refused exactly where its brackets do not match in number, or where it is not
blank itself and one of its pieces is. All this holds of the texts in which the machine counts, and a
checked machine stops exactly at the others that it holds. The pieces are well defined: a text whose
brackets match is cut in one way, and any other in none. -/
theorem cutComponents_inverts_joining (a : Machine.Arithmetic) :
    (∀ parts, (∀ p ∈ parts, Listable p) → Countable ([',', ' '].intercalate parts) →
      cutComponents a ([',', ' '].intercalate parts) = .ok (.ok parts)) ∧
    (∀ s, Countable s →
      (∀ parts, cutComponents a s = .ok (.ok parts) ↔ (∀ p ∈ parts, Listable p) ∧ Joins parts s) ∧
      (Blank s → cutComponents a s = .ok (.ok [])) ∧
      (∀ fault, cutComponents a s = .ok (.error fault) ↔
        (¬ Balanced s ∧ fault = .unbalancedParentheses (String.ofList s)) ∨
          (¬ Blank s ∧ (∃ pieces, CutInto s pieces ∧ ∃ p ∈ pieces, Blank p) ∧
            fault = .emptyComponent (String.ofList s))) ∧
      ∀ slip, cutComponents a s ≠ .error slip) ∧
    (∀ s, octetCount s < Machine.sizeLimit →
      (cutComponents .checked s = .error .overflow ↔ Overruns 0 s)) ∧
    (∀ s, Balanced s ↔ ∃ pieces, ∀ others, CutInto s others ↔ others = pieces) := by
  refine ⟨fun parts hparts hcounts => ?_, fun s hcounts => ?_, fun s => cutComponents_checked_iff,
    fun s => balanced_iff_cutInto⟩
  · have hgap : Blank [' '] := by decide
    have hjoined : components ([',', ' '].intercalate parts) = .ok parts := by
      refine components_join hgap fun p hp => ?_
      have h := hparts p hp
      exact ⟨h.ne_nil, h.trimmed, balanced_uncut_iff_spans.mp ⟨h.balanced, h.uncut⟩⟩
    rw [cutComponents_eq hcounts, hjoined]
  · rw [cutComponents_eq hcounts]
    refine ⟨fun parts => ?_, fun hblank => ?_, fun fault => ?_, fun slip => nofun⟩
    · rw [Except.ok.injEq]
      exact components_eq_ok_iff_joins
    · rw [components_of_blank hblank]
    · rw [Except.ok.injEq]
      exact components_eq_error

/-- Components with brackets of both kinds, one of them closed by one of the other kind: they come
back from the list, and a comma behind it leaves a place without a component. -/
theorem cutComponents_inverts_joining_mixed :
    let parts := ["(uint8,bool)[2] x".toList, "(a,[b)c]".toList, "bytes".toList]
    (∀ p ∈ parts, Listable p) ∧ Countable ([',', ' '].intercalate parts) ∧
      cutComponents .wrapping ([',', ' '].intercalate parts) = .ok (.ok parts) ∧
      Countable "a,\u2003".toList ∧
      cutComponents .checked "a,\u2003".toList = .ok (.error (.emptyComponent "a,\u2003")) := by
  intro parts
  have hparts : ∀ p ∈ parts, Listable p := by decide
  have hcounts : Countable ([',', ' '].intercalate parts) := .of_octets (by decide)
  have hblank : Countable "a,\u2003".toList := .of_octets (by decide)
  obtain ⟨hjoined, -⟩ := cutComponents_inverts_joining .wrapping
  obtain ⟨-, hread, -⟩ := cutComponents_inverts_joining .checked
  obtain ⟨-, -, herror, -⟩ := hread _ hblank
  refine ⟨hparts, hcounts, hjoined parts hparts hcounts, hblank, ?_⟩
  refine (herror _).mpr (Or.inr ⟨by decide, ?_, rfl⟩)
  exact ⟨["a".toList, "\u2003".toList], piecesFrom_eq_some.mp rfl, _,
    List.mem_cons_of_mem _ List.mem_cons_self, by decide⟩

/-! ### Full counters of a wrapping machine -/

/-- A wrapping machine counts brackets that are opened in a row by their lowest 32 bits. -/
theorem cutFrom_wrapping_replicate (text : List Char) (parts : List (List Char)) (depth : Int)
    (count start position : Nat) (s : List Char) :
    cutFrom .wrapping text (Machine.held depth) start parts
        (positioned position (List.replicate count '(' ++ s)) =
      cutFrom .wrapping text (Machine.held (depth + count)) start parts
        (positioned (position + count) s) := by
  induction count generalizing depth position with
  | zero => rw [Int.ofNat_zero, Int.add_zero]; rfl
  | succ count ih =>
    have hdepth : depth + 1 + count = depth + (count + 1 : Nat) := by omega
    have hposition : position + 1 + count = position + (count + 1) := by omega
    have hlater := ih (depth + 1) (position + 1)
    rw [hdepth, hposition, ← Machine.held_add] at hlater
    rw [List.replicate_succ, List.cons_append, positioned, cutFrom, if_pos (by decide)]
    exact hlater

/-- Brackets nested in one another match. -/
theorem balanced_nested (n : Nat) : Balanced (List.replicate n '(' ++ List.replicate n ')') := by
  rw [balanced_iff_spans]
  induction n with
  | zero => exact .nil
  | succ n ih =>
    have hgroup : Spans (fun _ => True) 0
        ('(' :: (List.replicate n '(' ++ List.replicate n ')' ++ ')' :: [])) :=
      .group rfl rfl ih .nil
    rwa [List.append_assoc, ← List.replicate_succ', ← List.cons_append, ← List.replicate_succ]
      at hgroup

/-- A wrapping machine refuses brackets that are nested more deeply than it counts, though they
match. -/
theorem cutComponents_wrapping_nested {n : Nat} (hlow : Machine.countLimit < n)
    (hhigh : n ≤ 2 * Machine.countLimit) :
    Balanced (List.replicate n '(' ++ List.replicate n ')') ∧
      cutComponents .wrapping (List.replicate n '(' ++ List.replicate n ')') =
        .ok (.error (.unbalancedParentheses
          (String.ofList (List.replicate n '(' ++ List.replicate n ')')))) := by
  refine ⟨balanced_nested n, ?_⟩
  obtain ⟨m, rfl⟩ := Nat.exists_eq_add_one_of_ne_zero (Nat.ne_zero_of_lt hlow)
  rw [List.replicate_succ (a := ')')]
  generalize htext : List.replicate (m + 1) '(' ++ ')' :: List.replicate m ')' = text
  have hopened := cutFrom_wrapping_replicate text [] 0 (m + 1) 0 0 (')' :: List.replicate m ')')
  have hleft : Machine.held (Machine.held (0 + (m + 1 : Nat)) - 1) < 0 := by
    have hcount : 0 + ((m + 1 : Nat) : Int) + -1 = m := by omega
    rw [Int.sub_eq_add_neg, Machine.held_add, hcount]
    exact Machine.held_neg (Nat.le_of_lt_succ hlow) (by omega)
  rw [htext, positioned, cutFrom, if_neg (by decide), if_pos (by decide)] at hopened
  have hcut : cutFrom .wrapping text 0 0 [] (positioned 0 text) = .ok none :=
    hopened.trans (if_pos hleft)
  rw [cutComponents, hcut]
  rfl

/-! ### First words -/

/-- The brackets behind the first character are counted on from there. -/
theorem CountsFit.behind {depth : Int} (h : CountsFit depth (c :: rest)) :
    CountsFit (depth + bracketStep c) rest :=
  (forall_prefix_cons (P := fun n => -Machine.countLimit ≤ n ∧ n < Machine.countLimit).mp h).2

/-- Such a count is gone on with from the start. -/
theorem CountsFit.counted {depth : Int} (h : CountsFit depth s) (a : Machine.Arithmetic) :
    Text.counted a depth = .ok depth := by
  have hstart := h [] List.nil_prefix
  rw [openBrackets_nil, Int.add_zero] at hstart
  exact counted_of_fits hstart.1 hstart.2 a

/-- The machine stops behind the first word, or passes over all of a text that is one word. -/
theorem wordEndFrom_eq {depth : Int} (h : CountsFit depth s) (position : Nat) :
    (wordEndFrom a depth (positioned position s) = .ok none ∧ firstWordFrom depth s = (s, [])) ∨
      wordEndFrom a depth (positioned position s) =
        .ok (some (position + octetCount (firstWordFrom depth s).1)) := by
  induction s generalizing depth position with
  | nil => exact Or.inl ⟨rfl, rfl⟩
  | cons c rest ih =>
    have hrest := h.behind
    -- A character that is passed over belongs to the word.
    have hpassed {inner : Int} (hfits : CountsFit inner rest) :
        (wordEndFrom a inner (positioned (position + c.utf8Size) rest) = .ok none ∧
            (c :: (firstWordFrom inner rest).1, (firstWordFrom inner rest).2) = (c :: rest, [])) ∨
          wordEndFrom a inner (positioned (position + c.utf8Size) rest) =
            .ok (some (position + octetCount (c :: (firstWordFrom inner rest).1))) := by
      rw [octetCount_cons, ← Nat.add_assoc]
      exact (ih hfits (position + c.utf8Size)).imp_left fun ⟨hend, hword⟩ => ⟨hend, by rw [hword]⟩
    rw [positioned, wordEndFrom, firstWordFrom]
    by_cases hopening : isOpening c = true
    · rw [bracketStep_of_opening hopening] at hrest
      rw [if_pos hopening, if_pos hopening, hrest.counted]
      exact hpassed hrest
    by_cases hclosing : isClosing c = true
    · rw [bracketStep_of_closing hclosing, ← Int.sub_eq_add_neg] at hrest
      rw [if_neg hopening, if_neg hopening, if_pos hclosing, if_pos hclosing, hrest.counted]
      exact hpassed hrest
    have noOpening := Bool.eq_false_iff.mpr hopening
    have noClosing := Bool.eq_false_iff.mpr hclosing
    rw [bracketStep_of_other noOpening noClosing, Int.add_zero] at hrest
    rw [if_neg hopening, if_neg hopening, if_neg hclosing, if_neg hclosing]
    split
    · exact Or.inr rfl
    · exact hpassed hrest

/-- The machine finds the first word that the characters have. -/
theorem cutFirstWord_eq (h : CountsFit 0 s) (a : Machine.Arithmetic) :
    cutFirstWord a s = .ok (firstWord s) := by
  have hparts : (firstWord s).1 ++ (firstWord s).2 = s := firstWordFrom_append_snd 0 s
  have hafter := slice_behind (firstWord s).1 (firstWord s).2
  have hfront := slice_front (firstWord s).1 (firstWord s).2
  rw [hparts] at hafter hfront
  rcases wordEndFrom_eq (a := a) h 0 with ⟨hend, hword⟩ | hend
  · have hone : firstWord s = (s, []) := hword
    rw [hone] at hafter ⊢
    rw [cutFirstWord, hend]
    change (slice s (octetCount s) (octetCount s) >>= fun after => .ok (s, after)) = _
    rw [hafter]
    rfl
  · rw [Nat.zero_add] at hend
    rw [cutFirstWord, hend]
    change (slice s 0 (octetCount (firstWord s).1) >>= fun word =>
      slice s (octetCount word) (octetCount s) >>= fun after => .ok (word, after)) = _
    rw [hfront]
    change (slice s (octetCount (firstWord s).1) (octetCount s) >>= fun after => .ok (_, after)) = _
    rw [hafter]
    rfl

end ContractToolkit.Abi
