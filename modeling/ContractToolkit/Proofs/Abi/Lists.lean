import ContractToolkit.Proofs.Abi.Depth

/-!
# Lists cut and joined

A list is written as components with commas between them. Cutting takes apart what
joining put together, whatever white space stands next to the commas, as long as
each component closes the brackets it opens and keeps its own commas inside of
them. A text is refused exactly where its brackets do not match in number, or
where nothing but white space stands in the place of a component.
-/

namespace ContractToolkit.Abi

open Text

/-! ### Counting brackets -/

/-- What a character adds to the number of open brackets. -/
def bracketStep (c : Char) : Int := if isOpening c then 1 else if isClosing c then -1 else 0

/-- An opening bracket is counted up. -/
theorem bracketStep_of_opening {c : Char} (h : isOpening c = true) : bracketStep c = 1 := if_pos h

/-- A closing bracket is counted down. -/
theorem bracketStep_of_closing {c : Char} (h : isClosing c = true) : bracketStep c = -1 := by
  rw [bracketStep, if_neg (not_isOpening_of_isClosing h), if_pos h]

/-- Other characters are not counted. -/
theorem bracketStep_of_other {c : Char} (noOpening : isOpening c = false)
    (noClosing : isClosing c = false) : bracketStep c = 0 := by
  rw [bracketStep, noOpening, noClosing, if_neg Bool.false_ne_true, if_neg Bool.false_ne_true]

/-- The brackets that a text opens less those that it closes, round and square ones alike. -/
def openBrackets (s : List Char) : Int := s.foldr (fun c count => bracketStep c + count) 0

@[simp] theorem openBrackets_nil : openBrackets [] = 0 := rfl

@[simp] theorem openBrackets_cons (c : Char) (s : List Char) :
    openBrackets (c :: s) = bracketStep c + openBrackets s := rfl

@[simp] theorem openBrackets_append (s t : List Char) :
    openBrackets (s ++ t) = openBrackets s + openBrackets t := by
  induction s with
  | nil => exact (Int.zero_add _).symm
  | cons c rest ih => rw [List.cons_append, openBrackets_cons, openBrackets_cons, ih, Int.add_assoc]

/-- The brackets of a text are counted on behind its first character. -/
theorem add_openBrackets_cons (depth : Int) (c : Char) (s : List Char) :
    depth + openBrackets (c :: s) = depth + bracketStep c + openBrackets s := by
  rw [openBrackets_cons, Int.add_assoc]

/-- What holds of the number of open brackets at every place holds of it at the start and at every
place behind the first character. -/
theorem forall_prefix_cons {P : Int → Prop} {depth : Int} {c : Char} {rest : List Char} :
    (∀ front, front <+: c :: rest → P (depth + openBrackets front)) ↔
      P depth ∧ ∀ front, front <+: rest → P (depth + bracketStep c + openBrackets front) := by
  constructor
  · intro h
    have hstart := h [] List.nil_prefix
    rw [openBrackets_nil, Int.add_zero] at hstart
    refine ⟨hstart, fun front hfront => ?_⟩
    rw [← add_openBrackets_cons]
    exact h (c :: front) ((List.prefix_cons_inj c).mpr hfront)
  · rintro ⟨hstart, hlater⟩ front hfront
    rcases List.prefix_cons_iff.mp hfront with rfl | ⟨front, rfl, hrest⟩
    · rwa [openBrackets_nil, Int.add_zero]
    · rw [add_openBrackets_cons]
      exact hlater front hrest

/-- White space opens and closes nothing. -/
theorem openBrackets_of_blank {gap : List Char} (h : Blank gap) : openBrackets gap = 0 := by
  induction gap with
  | nil => rfl
  | cons c rest ih =>
    obtain ⟨noOpening, noClosing, -⟩ := no_cut_of_isBlank (h c List.mem_cons_self)
    rw [openBrackets_cons, ih fun d hd => h d (List.mem_cons_of_mem _ hd),
      bracketStep_of_other noOpening noClosing, Int.add_zero]

/-- A text whose number of open brackets is never negative, and zero at the end. -/
structure Balanced (s : List Char) : Prop where
  /-- Nothing is closed that was not opened before. -/
  nonneg : ∀ front, front <+: s → 0 ≤ openBrackets front
  /-- What is opened is closed. -/
  closed : openBrackets s = 0

/-- A text without a comma where no bracket is open. -/
def Uncut (s : List Char) : Prop := ∀ front rest, s = front ++ ',' :: rest → openBrackets front ≠ 0

/-- A component as it can stand in a list. -/
structure Listable (s : List Char) : Prop where
  /-- There is something of it. -/
  ne_nil : s ≠ []
  /-- White space does not stand at its ends. -/
  trimmed : Trimmed s
  /-- It closes the brackets it opens. -/
  balanced : Balanced s
  /-- Its commas are inside of brackets. -/
  uncut : Uncut s

/-- A text read inside of `depth` brackets, by the count: it closes all of them, and outside of all
brackets there are only certain characters. -/
structure Closes (outside : Char → Prop) (depth : Int) (s : List Char) : Prop where
  /-- Nothing is closed that was not opened before. -/
  nonneg : ∀ front, front <+: s → 0 ≤ depth + openBrackets front
  /-- What is open is closed. -/
  closed : depth + openBrackets s = 0
  /-- A character outside of all brackets is allowed there. -/
  allowed : ∀ front c rest, s = front ++ c :: rest → isOpening c = false → isClosing c = false →
    depth + openBrackets front = 0 → outside c

variable {outside : Char → Prop} {s : List Char}

/-- Nothing is left to close at the end. -/
theorem closes_nil {depth : Int} : Closes outside depth [] ↔ depth = 0 := by
  constructor
  · intro h
    simpa using h.closed
  · rintro rfl
    refine ⟨fun front hfront => ?_, rfl, fun front c rest hs => ?_⟩
    · rw [List.prefix_nil.mp hfront]
      exact Int.le_refl 0
    · cases front <;> cases hs

/-- A character is counted, and the others are read inside of the brackets that are open then. -/
theorem closes_cons {depth : Int} {c : Char} {rest : List Char} :
    Closes outside depth (c :: rest) ↔ 0 ≤ depth ∧
      (isOpening c = false → isClosing c = false → depth = 0 → outside c) ∧
        Closes outside (depth + bracketStep c) rest := by
  constructor
  · intro h
    obtain ⟨hstart, hlater⟩ := forall_prefix_cons.mp h.nonneg
    refine ⟨hstart, fun noOpening noClosing hdepth => ?_, hlater, ?_,
      fun front d behind hrest noOpening noClosing hdepth => ?_⟩
    · exact h.allowed [] c rest rfl noOpening noClosing (by simpa using hdepth)
    · rw [← add_openBrackets_cons]
      exact h.closed
    · refine h.allowed (c :: front) d behind (by rw [hrest]; rfl) noOpening noClosing ?_
      rwa [add_openBrackets_cons]
  · rintro ⟨hstart, hfirst, h⟩
    refine ⟨forall_prefix_cons.mpr ⟨hstart, h.nonneg⟩, ?_,
      fun front d behind hs noOpening noClosing hdepth => ?_⟩
    · rw [add_openBrackets_cons]
      exact h.closed
    · cases front with
      | nil =>
        obtain ⟨rfl, -⟩ := List.cons.inj hs
        exact hfirst noOpening noClosing (by simpa using hdepth)
      | cons e front =>
        obtain ⟨rfl, hrest⟩ := List.cons.inj hs
        rw [add_openBrackets_cons] at hdepth
        exact h.allowed front d behind hrest noOpening noClosing hdepth

/-- The scanners pass over a text exactly where the count allows it. -/
theorem spans_iff_closes {depth : Nat} : Spans outside depth s ↔ Closes outside depth s := by
  induction s generalizing depth with
  | nil =>
    rw [closes_nil]
    constructor
    · intro h
      cases h
      rfl
    · intro h
      obtain rfl := Int.ofNat_eq_zero.mp h
      exact .nil
  | cons c rest ih =>
    rw [closes_cons]
    constructor
    · intro h
      cases h with
      | opening bracket others =>
        refine ⟨Int.natCast_nonneg _, fun noOpening => ?_, ?_⟩
        · rw [bracket] at noOpening
          cases noOpening
        · rw [bracketStep_of_opening bracket]
          exact ih.mp others
      | @closing depth _ _ bracket others =>
        refine ⟨Int.natCast_nonneg _, fun _ noClosing => ?_, ?_⟩
        · rw [bracket] at noClosing
          cases noClosing
        · rw [bracketStep_of_closing bracket, Int.natCast_succ, Int.add_neg_cancel_right]
          exact ih.mp others
      | char noOpening noClosing allowed others =>
        refine ⟨Int.natCast_nonneg _, fun _ _ hdepth => allowed (Int.ofNat_eq_zero.mp hdepth), ?_⟩
        rw [bracketStep_of_other noOpening noClosing, Int.add_zero]
        exact ih.mp others
    · rintro ⟨-, hallowed, hrest⟩
      by_cases hopening : isOpening c = true
      · rw [bracketStep_of_opening hopening] at hrest
        exact .opening hopening (ih.mpr hrest)
      by_cases hclosing : isClosing c = true
      · rw [bracketStep_of_closing hclosing] at hrest
        -- A bracket can only be closed here if one is open.
        cases depth with
        | zero => exact absurd (hrest.nonneg [] List.nil_prefix) (by decide)
        | succ depth =>
          rw [Int.natCast_succ, Int.add_neg_cancel_right] at hrest
          exact .closing hclosing (ih.mpr hrest)
      · have noOpening := Bool.eq_false_iff.mpr hopening
        have noClosing := Bool.eq_false_iff.mpr hclosing
        rw [bracketStep_of_other noOpening noClosing, Int.add_zero] at hrest
        refine .char noOpening noClosing (fun hdepth => ?_) (ih.mpr hrest)
        exact hallowed noOpening noClosing (Int.ofNat_eq_zero.mpr hdepth)

/-- A text is balanced exactly where the scanners get through it. -/
theorem balanced_iff_spans : Balanced s ↔ Spans (fun _ => True) 0 s := by
  rw [spans_iff_closes]
  constructor
  · intro h
    exact ⟨by simpa using h.nonneg, by simpa using h.closed, fun _ _ _ _ _ _ _ => trivial⟩
  · intro h
    exact ⟨by simpa using h.nonneg, by simpa using h.closed⟩

/-- A balanced text has no comma to cut at exactly where the scanners find none. -/
theorem balanced_uncut_iff_spans : Balanced s ∧ Uncut s ↔ Spans (· ≠ ',') 0 s := by
  rw [spans_iff_closes]
  constructor
  · rintro ⟨h, huncut⟩
    refine ⟨by simpa using h.nonneg, by simpa using h.closed, ?_⟩
    rintro front c rest hs - - hdepth rfl
    exact huncut front rest hs (by simpa using hdepth)
  · intro h
    refine ⟨⟨by simpa using h.nonneg, by simpa using h.closed⟩, fun front rest hs hdepth => ?_⟩
    exact h.allowed front ',' rest hs rfl rfl (by simpa using hdepth) rfl

/-- White space around a balanced text does not matter. -/
theorem Balanced.of_padded {front back : List Char} (h : Balanced (front ++ s ++ back))
    (hfront : Blank front) (hback : Blank back) : Balanced s := by
  constructor
  · intro start hstart
    have hprefix : front ++ start <+: front ++ s ++ back :=
      ((List.prefix_append_right_inj front).mpr hstart).trans (List.prefix_append _ _)
    have hnonneg := h.nonneg _ hprefix
    rwa [openBrackets_append, openBrackets_of_blank hfront, Int.zero_add] at hnonneg
  · have hclosed := h.closed
    rwa [openBrackets_append, openBrackets_append, openBrackets_of_blank hfront,
      openBrackets_of_blank hback, Int.zero_add, Int.add_zero] at hclosed

/-- White space around a text without a comma to cut at does not matter. -/
theorem Uncut.of_padded {front back : List Char} (h : Uncut (front ++ s ++ back))
    (hfront : Blank front) : Uncut s := by
  intro start rest hs
  have hopen := h (front ++ start) (rest ++ back) (by rw [hs]; simp)
  rwa [openBrackets_append, openBrackets_of_blank hfront, Int.zero_add] at hopen

/-! ### Cutting -/

/-- A text cut at its commas outside of all brackets. -/
structure CutInto (s : List Char) (pieces : List (List Char)) : Prop where
  /-- There is a piece, which may be empty. -/
  some : pieces ≠ []
  /-- With commas between them the pieces are the text. -/
  joined : [','].intercalate pieces = s
  /-- Each piece closes the brackets it opens. -/
  balanced : ∀ p ∈ pieces, Balanced p
  /-- All other commas are inside of brackets. -/
  uncut : ∀ p ∈ pieces, Uncut p

/-- The scanner for components makes a piece of what comes before the first comma to cut at. -/
theorem spans_of_piecesFrom {depth : Nat} {current : List Char} {pieces : List (List Char)}
    (h : piecesFrom depth current s = some pieces) :
    ∃ first later, pieces = (current.reverse ++ first) :: later ∧ Spans (· ≠ ',') depth first ∧
      ∀ p ∈ later, Spans (· ≠ ',') 0 p := by
  induction s generalizing depth current pieces with
  | nil =>
    cases depth with
    | zero =>
      obtain rfl := Option.some.inj h
      exact ⟨[], [], by rw [List.append_nil], .nil, nofun⟩
    | succ depth => cases h
  | cons c rest ih =>
    have hmoved (first : List Char) :
        (c :: current).reverse ++ first = current.reverse ++ c :: first := by
      simp
    rw [piecesFrom_cons] at h
    by_cases hopening : isOpening c = true
    · rw [if_pos hopening] at h
      obtain ⟨first, later, rfl, hfirst, hlater⟩ := ih h
      exact ⟨c :: first, later, by rw [hmoved], .opening hopening hfirst, hlater⟩
    rw [if_neg hopening] at h
    by_cases hclosing : isClosing c = true
    · rw [if_pos hclosing] at h
      cases depth with
      | zero => cases h
      | succ depth =>
        obtain ⟨first, later, rfl, hfirst, hlater⟩ := ih h
        exact ⟨c :: first, later, by rw [hmoved], .closing hclosing hfirst, hlater⟩
    rw [if_neg hclosing] at h
    split at h
    · rename_i hcut
      obtain ⟨others, hothers, rfl⟩ := Option.map_eq_some_iff.mp h
      obtain ⟨first, later, rfl, hfirst, hlater⟩ := ih hothers
      refine ⟨[], _, by rw [List.append_nil], hcut.2 ▸ .nil, List.forall_mem_cons.mpr ⟨?_, hlater⟩⟩
      rwa [List.reverse_nil, List.nil_append]
    · rename_i hcut
      obtain ⟨first, later, rfl, hfirst, hlater⟩ := ih h
      refine ⟨c :: first, later, by rw [hmoved], ?_, hlater⟩
      exact .char (Bool.not_eq_true _ ▸ hopening) (Bool.not_eq_true _ ▸ hclosing)
        (fun hdepth hcomma => hcut ⟨hcomma, hdepth⟩) hfirst

/-- The scanner for components gets through every text that closes what is open. -/
theorem exists_pieces_of_spans {depth : Nat} (h : Spans (fun _ => True) depth s)
    (current : List Char) : ∃ pieces, piecesFrom depth current s = some pieces := by
  induction h generalizing current with
  | nil => exact ⟨_, rfl⟩
  | opening bracket _ ih =>
    obtain ⟨pieces, hpieces⟩ := ih (_ :: current)
    exact ⟨pieces, by rw [piecesFrom_cons, if_pos bracket, hpieces]⟩
  | @closing depth c rest bracket _ ih =>
    obtain ⟨pieces, hpieces⟩ := ih (c :: current)
    refine ⟨pieces, ?_⟩
    rw [piecesFrom_cons, if_neg (not_isOpening_of_isClosing bracket), if_pos bracket]
    exact hpieces
  | @char depth c rest noOpening noClosing _ _ ih =>
    rw [piecesFrom_cons, noOpening, noClosing, if_neg Bool.false_ne_true, if_neg Bool.false_ne_true]
    split
    · rename_i hcut
      obtain ⟨pieces, hpieces⟩ := ih []
      rw [hcut.2] at hpieces
      exact ⟨_, by rw [hpieces, Option.map_some]⟩
    · exact ih (c :: current)

/-- A text is cut at its commas outside of all brackets, and in no other way. -/
theorem piecesFrom_eq_some {pieces : List (List Char)} :
    piecesFrom 0 [] s = some pieces ↔ CutInto s pieces := by
  constructor
  · intro h
    obtain ⟨hne, hjoined⟩ := intercalate_piecesFrom h
    obtain ⟨first, later, hpieces, hfirst, hlater⟩ := spans_of_piecesFrom h
    have hspans : ∀ p ∈ pieces, Balanced p ∧ Uncut p := by
      rw [hpieces]
      intro p hp
      exact balanced_uncut_iff_spans.mpr (List.forall_mem_cons.mpr ⟨hfirst, hlater⟩ p hp)
    exact ⟨hne, hjoined, fun p hp => (hspans p hp).1, fun p hp => (hspans p hp).2⟩
  · intro h
    obtain ⟨first, later, rfl⟩ := List.exists_cons_of_ne_nil h.some
    have hspans (p : List Char) (hp : p ∈ first :: later) : Spans (· ≠ ',') 0 p :=
      balanced_uncut_iff_spans.mp ⟨h.balanced p hp, h.uncut p hp⟩
    have hgap : Blank [] := by decide
    have hcut := piecesFrom_intercalate hgap hspans []
    rw [h.joined] at hcut
    simpa using hcut

/-- A text is not cut exactly where its brackets do not match in number. -/
theorem piecesFrom_eq_none : piecesFrom 0 [] s = none ↔ ¬ Balanced s := by
  rw [balanced_iff_spans]
  constructor
  · intro h hspans
    obtain ⟨pieces, hpieces⟩ := exists_pieces_of_spans hspans []
    rw [h] at hpieces
    cases hpieces
  · intro h
    cases hpieces : piecesFrom 0 [] s with
    | none => rfl
    | some pieces => exact absurd (.of_piecesFrom hpieces) h

instance (s : List Char) : Decidable (Listable s) :=
  decidable_of_iff (s ≠ [] ∧ Trimmed s ∧ piecesFrom 0 [] s = some [s]) (by
    rw [piecesFrom_eq_some]
    constructor
    · rintro ⟨hne, htrimmed, hcut⟩
      exact ⟨hne, htrimmed, hcut.balanced s (List.mem_singleton_self s),
        hcut.uncut s (List.mem_singleton_self s)⟩
    · intro h
      refine ⟨h.ne_nil, h.trimmed, List.cons_ne_nil _ _, List.intercalate_singleton .., ?_, ?_⟩
      · exact List.forall_mem_singleton.mpr h.balanced
      · exact List.forall_mem_singleton.mpr h.uncut)

/-! ### Components -/

/-- Nothing is left of a text exactly where it is white space. -/
theorem trim_eq_nil : trim s = [] ↔ Blank s := by
  constructor
  · intro h c hc
    have hkept := isBlank_or_mem_trim hc
    rw [h] at hkept
    exact hkept.resolve_right List.not_mem_nil
  · intro h
    have hnil : Trimmed [] := by decide
    have hgap := hnil.trim_append s h
    rwa [List.append_nil] at hgap

/-- What is left of a piece can stand in a list, unless it is nothing. -/
theorem listable_trim (hbalanced : Balanced s) (huncut : Uncut s) (hblank : ¬ Blank s) :
    Listable (trim s) := by
  obtain ⟨front, back, hfront, hback, hs⟩ := exists_eq_append_trim s
  rw [hs] at hbalanced huncut
  exact ⟨fun hnil => hblank (trim_eq_nil.mp hnil), trimmed_trim s,
    hbalanced.of_padded hfront hback, huncut.of_padded hfront⟩

/-- Components with commas between them, and white space at will at the ends and next to the
commas. -/
inductive Joins : List (List Char) → List Char → Prop
  | none {gap : List Char} (blank : Blank gap) : Joins [] gap
  | one {front part back : List Char} (before : Blank front) (behind : Blank back) :
      Joins [part] (front ++ part ++ back)
  | more {front part back next : List Char} {parts : List (List Char)} {s : List Char}
      (before : Blank front) (behind : Blank back) (others : Joins (next :: parts) s) :
      Joins (part :: next :: parts) (front ++ part ++ back ++ ',' :: s)

/-- Pieces with commas between them are so many components, the white space at their ends being
left out. -/
theorem joins_intercalate (first : List Char) (rest : List (List Char)) :
    Joins ((first :: rest).map trim) ([','].intercalate (first :: rest)) := by
  induction rest generalizing first with
  | nil =>
    obtain ⟨front, back, hfront, hback, hfirst⟩ := exists_eq_append_trim first
    have hone : Joins [trim first] (front ++ trim first ++ back) := .one hfront hback
    rw [← hfirst] at hone
    rwa [List.intercalate_singleton]
  | cons next rest ih =>
    obtain ⟨front, back, hfront, hback, hfirst⟩ := exists_eq_append_trim first
    have hmore : Joins (trim first :: (next :: rest).map trim)
        (front ++ trim first ++ back ++ ',' :: [','].intercalate (next :: rest)) :=
      .more hfront hback (ih next)
    rw [← hfirst] at hmore
    rwa [List.intercalate_cons_cons, List.append_assoc, List.singleton_append]

/-- A piece in front of others is cut off at the comma between them. -/
theorem CutInto.cons {pieces : List (List Char)} {p : List Char} (h : CutInto s pieces)
    (balanced : Balanced p) (uncut : Uncut p) : CutInto (p ++ ',' :: s) (p :: pieces) := by
  obtain ⟨next, later, rfl⟩ := List.exists_cons_of_ne_nil h.some
  refine ⟨List.cons_ne_nil _ _, ?_, List.forall_mem_cons.mpr ⟨balanced, h.balanced⟩,
    List.forall_mem_cons.mpr ⟨uncut, h.uncut⟩⟩
  rw [List.intercalate_cons_cons, h.joined, List.append_assoc, List.singleton_append]

/-- A text without a comma to cut at is one piece. -/
theorem CutInto.single (balanced : Balanced s) (uncut : Uncut s) : CutInto s [s] :=
  ⟨List.cons_ne_nil _ _, List.intercalate_singleton .., List.forall_mem_singleton.mpr balanced,
    List.forall_mem_singleton.mpr uncut⟩

/-- A text of which nothing is left in one piece is white space. -/
theorem CutInto.blank {pieces : List (List Char)} (h : CutInto s pieces)
    (hone : pieces.map trim = [[]]) : Blank s := by
  obtain ⟨p, rfl, hp⟩ := List.map_eq_singleton_iff.mp hone
  have hjoined := h.joined
  rw [List.intercalate_singleton] at hjoined
  exact hjoined ▸ trim_eq_nil.mp hp

/-- A component with white space around it is a piece, and is what is left of that piece. -/
theorem Listable.padded {front part back : List Char} (h : Listable part) (hfront : Blank front)
    (hback : Blank back) : Balanced (front ++ part ++ back) ∧ Uncut (front ++ part ++ back) ∧
      trim (front ++ part ++ back) = part := by
  have hspans := balanced_uncut_iff_spans.mp ⟨h.balanced, h.uncut⟩
  have hpadded := ((Spans.of_blank hfront).append hspans).append (.of_blank hback)
  obtain ⟨balanced, uncut⟩ := balanced_uncut_iff_spans.mpr hpadded
  exact ⟨balanced, uncut, h.trimmed.trim_padded hfront hback⟩

/-- Components that are joined are what is left of the pieces of the text. -/
theorem Joins.exists_cut {part : List Char} {parts : List (List Char)}
    (h : Joins (part :: parts) s) (hparts : ∀ p ∈ part :: parts, Listable p) :
    ∃ pieces, CutInto s pieces ∧ pieces.map trim = part :: parts := by
  induction parts generalizing part s with
  | nil =>
    have hpart := hparts part List.mem_cons_self
    cases h with
    | one before behind =>
      obtain ⟨balanced, uncut, htrim⟩ := hpart.padded before behind
      exact ⟨_, .single balanced uncut, by rw [List.map_singleton, htrim]⟩
  | cons next rest ih =>
    obtain ⟨hpart, hrest⟩ := List.forall_mem_cons.mp hparts
    cases h with
    | more before behind others =>
      obtain ⟨pieces, hcut, hpieces⟩ := ih others hrest
      obtain ⟨balanced, uncut, htrim⟩ := hpart.padded before behind
      exact ⟨_, hcut.cons balanced uncut, by rw [List.map_cons, hpieces, htrim]⟩

/-- White space has no components. -/
theorem components_of_blank (h : Blank s) : components s = .ok [] := by
  obtain ⟨balanced, uncut⟩ := balanced_uncut_iff_spans.mpr (.of_blank h)
  have hcut : CutInto s [s] := .single balanced uncut
  refine components_eq_ok.mpr ⟨[s], piecesFrom_eq_some.mpr hcut, Or.inl ⟨?_, rfl⟩⟩
  rw [List.map_singleton, trim_eq_nil.mpr h]

/-- The components of a text are those that it was joined from. -/
theorem components_eq_ok_iff_joins {parts : List (List Char)} :
    components s = .ok parts ↔ (∀ p ∈ parts, Listable p) ∧ Joins parts s := by
  constructor
  · intro h
    obtain ⟨pieces, hpieces, hparts⟩ := components_eq_ok.mp h
    have hcut := piecesFrom_eq_some.mp hpieces
    rcases hparts with ⟨hblank, rfl⟩ | ⟨rfl, hne⟩
    · exact ⟨nofun, .none (hcut.blank hblank)⟩
    · constructor
      · intro part hpart
        obtain ⟨p, hp, rfl⟩ := List.mem_map.mp hpart
        exact listable_trim (hcut.balanced p hp) (hcut.uncut p hp)
          fun hblank => hne _ hpart (trim_eq_nil.mpr hblank)
      · obtain ⟨first, later, rfl⟩ := List.exists_cons_of_ne_nil hcut.some
        exact hcut.joined ▸ joins_intercalate first later
  · rintro ⟨hparts, hjoins⟩
    cases parts with
    | nil =>
      cases hjoins with
      | none blank => exact components_of_blank blank
    | cons part rest =>
      obtain ⟨pieces, hcut, hpieces⟩ := hjoins.exists_cut hparts
      exact components_eq_ok.mpr ⟨pieces, piecesFrom_eq_some.mpr hcut,
        Or.inr ⟨hpieces, fun p hp => (hparts p hp).ne_nil⟩⟩

/-- A text is cut in one way if its brackets match in number, and not at all if they do not. -/
theorem balanced_iff_cutInto :
    Balanced s ↔ ∃ pieces, ∀ others, CutInto s others ↔ others = pieces := by
  constructor
  · intro h
    cases hcut : piecesFrom 0 [] s with
    | none => exact absurd h (piecesFrom_eq_none.mp hcut)
    | some pieces =>
      refine ⟨pieces, fun others => ?_⟩
      rw [← piecesFrom_eq_some, hcut, Option.some.injEq]
      exact eq_comm
  · rintro ⟨pieces, honly⟩
    have hcut := piecesFrom_eq_some.mpr ((honly pieces).mpr rfl)
    exact balanced_iff_spans.mpr (.of_piecesFrom hcut)

/-- Nothing is left of one of several pieces exactly where one of them is blank. -/
theorem any_isEmpty_trim {pieces : List (List Char)} :
    (pieces.map trim).any List.isEmpty = true ↔ ∃ p ∈ pieces, Blank p := by
  simp only [List.any_map, List.any_eq_true, Function.comp_apply, List.isEmpty_iff, trim_eq_nil]

/-- Why a text is not cut into components: its brackets do not match in number, or white space
stands in the place of one of several components. -/
theorem components_eq_error {fault : DescriptorFault} :
    components s = .error fault ↔
      (¬ Balanced s ∧ fault = .unbalancedParentheses (String.ofList s)) ∨
        (¬ Blank s ∧ (∃ pieces, CutInto s pieces ∧ ∃ p ∈ pieces, Blank p) ∧
          fault = .emptyComponent (String.ofList s)) := by
  by_cases hblank : Blank s
  · have hbalanced := (balanced_uncut_iff_spans.mpr (.of_blank hblank)).1
    rw [components_of_blank hblank]
    simp [hblank, hbalanced]
  by_cases hbalanced : Balanced s
  · obtain ⟨pieces, honly⟩ := balanced_iff_cutInto.mp hbalanced
    have hcut := (honly pieces).mpr rfl
    rw [components, piecesFrom_eq_some.mpr hcut]
    dsimp only
    split
    · rename_i hone
      exact absurd (hcut.blank hone) hblank
    · simp only [any_isEmpty_trim, honly, exists_eq_left, hbalanced, hblank, not_true,
        not_false_eq_true, false_and, true_and, false_or]
      split
      · rename_i hempty
        simp [hempty, eq_comm]
      · rename_i hempty
        simp [hempty]
  · have hnone (pieces : List (List Char)) : ¬ CutInto s pieces := fun hcut =>
      hbalanced (balanced_iff_spans.mpr (.of_piecesFrom (piecesFrom_eq_some.mpr hcut)))
    simp [components, piecesFrom_eq_none.mpr hbalanced, hbalanced, hnone, eq_comm]

end ContractToolkit.Abi
