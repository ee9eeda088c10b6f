import ContractToolkit.Proofs.Interface.DeclarationText
import ContractToolkit.Proofs.Text.Positions

/-!
# The parts of a declaration

A declaration is cut at its first opening parenthesis and at the one that closes
it. It has parts exactly where both exist, and then the parts with white space
between them are the text again, less the keyword. A machine finds them by octet
positions and a count of open parentheses; it never counts below zero and never
cuts a character, whatever the text is.
-/

namespace ContractToolkit.Interface

open Abi Outcome

variable {depth : Nat} {c : Char} {s rest params : List Char}

/-! ### The closing parenthesis -/

/-- A text inside of `depth` parentheses that never closes more than these and those it opens. -/
def KeepsOpen (depth : Nat) (s : List Char) : Prop :=
  ∀ front, front <+: s → front.count ')' ≤ depth + front.count '('

/-- The first character is in every part from the start on that is not empty. -/
theorem keepsOpen_cons : KeepsOpen depth (c :: rest) ↔
    ∀ front, front <+: rest → (c :: front).count ')' ≤ depth + (c :: front).count '(' := by
  constructor
  · intro h front hfront
    exact h (c :: front) ((List.prefix_cons_inj c).mpr hfront)
  · intro h front hfront
    cases front with
    | nil => exact Nat.zero_le _
    | cons d front =>
      obtain ⟨rfl, hothers⟩ := List.cons_prefix_cons.mp hfront
      exact h front hothers

/-- Nothing closes nothing. -/
theorem keepsOpen_nil : KeepsOpen depth [] := by
  intro front hfront
  rw [List.prefix_nil.mp hfront]
  exact Nat.zero_le _

/-- Each kind of parenthesis is counted for itself. -/
theorem count_parentheses (s : List Char) :
    ('(' :: s).count '(' = s.count '(' + 1 ∧ ('(' :: s).count ')' = s.count ')' ∧
      (')' :: s).count '(' = s.count '(' ∧ (')' :: s).count ')' = s.count ')' + 1 :=
  ⟨List.count_cons_self, List.count_cons_of_ne (by decide), List.count_cons_of_ne (by decide),
    List.count_cons_self⟩

/-- Behind an opening parenthesis one more may be closed. -/
theorem keepsOpen_opening : KeepsOpen depth ('(' :: rest) ↔ KeepsOpen (depth + 1) rest := by
  rw [keepsOpen_cons]
  refine forall₂_congr fun front _ => ?_
  obtain ⟨hopened, hclosed, -, -⟩ := count_parentheses front
  omega

/-- A closing parenthesis closes one of those that may be closed. -/
theorem keepsOpen_closing : KeepsOpen (depth + 1) (')' :: rest) ↔ KeepsOpen depth rest := by
  rw [keepsOpen_cons]
  refine forall₂_congr fun front _ => ?_
  obtain ⟨-, -, hopened, hclosed⟩ := count_parentheses front
  omega

/-- Where none may be closed no closing parenthesis stands. -/
theorem not_keepsOpen_closing : ¬ KeepsOpen 0 (')' :: rest) := by
  intro h
  have hfirst : [')'].count ')' ≤ 0 + [')'].count '(' := keepsOpen_cons.mp h [] List.nil_prefix
  exact absurd hfirst (by decide)

/-- Other characters close nothing and open nothing. -/
theorem keepsOpen_other (hopening : c ≠ '(') (hclosing : c ≠ ')') :
    KeepsOpen depth (c :: rest) ↔ KeepsOpen depth rest := by
  rw [keepsOpen_cons]
  refine forall₂_congr fun front _ => ?_
  rw [List.count_cons_of_ne hopening, List.count_cons_of_ne hclosing]

/-- A text that closes `depth` parentheses and those it opens, and none that is not open. -/
structure Enclosed (depth : Nat) (s : List Char) : Prop where
  /-- No part from the start on closes more. -/
  keeps : KeepsOpen depth s
  /-- In the end all are closed. -/
  closes : s.count ')' = depth + s.count '('

/-- Only where all are closed is there nothing left to close. -/
theorem enclosed_nil : Enclosed depth [] ↔ depth = 0 := by
  constructor
  · intro h
    exact h.closes.symm
  · intro h
    exact ⟨keepsOpen_nil, h.symm⟩

/-- The two conditions. -/
theorem enclosed_iff : Enclosed depth s ↔ KeepsOpen depth s ∧ s.count ')' = depth + s.count '(' :=
  ⟨fun h => ⟨h.keeps, h.closes⟩, fun h => ⟨h.1, h.2⟩⟩

/-- Behind an opening parenthesis one more is closed. -/
theorem enclosed_opening : Enclosed depth ('(' :: rest) ↔ Enclosed (depth + 1) rest := by
  obtain ⟨hopened, hclosed, -, -⟩ := count_parentheses rest
  rw [enclosed_iff, enclosed_iff]
  refine and_congr keepsOpen_opening ?_
  omega

/-- A closing parenthesis closes one of them. -/
theorem enclosed_closing : Enclosed (depth + 1) (')' :: rest) ↔ Enclosed depth rest := by
  obtain ⟨-, -, hopened, hclosed⟩ := count_parentheses rest
  rw [enclosed_iff, enclosed_iff]
  refine and_congr keepsOpen_closing ?_
  omega

/-- Other characters change nothing. -/
theorem enclosed_other (hopening : c ≠ '(') (hclosing : c ≠ ')') :
    Enclosed depth (c :: rest) ↔ Enclosed depth rest := by
  rw [enclosed_iff, enclosed_iff, keepsOpen_other hopening hclosing,
    List.count_cons_of_ne hopening, List.count_cons_of_ne hclosing]

/-- The scanner passes over an opening parenthesis, and has to find one more that closes. -/
theorem untilClosing?_opening : untilClosing? depth ('(' :: rest) =
    (untilClosing? (depth + 1) rest).map (Prod.map ('(' :: ·) id) := by
  rw [untilClosing?_cons, if_pos rfl]
  rfl

/-- The scanner stops at a closing parenthesis when no other is open. -/
theorem untilClosing?_last : untilClosing? 0 (')' :: rest) = some ([], rest) := by
  rw [untilClosing?_cons, if_neg (by decide), if_pos rfl]

/-- The scanner passes over a closing parenthesis when others are open. -/
theorem untilClosing?_closing : untilClosing? (depth + 1) (')' :: rest) =
    (untilClosing? depth rest).map (Prod.map (')' :: ·) id) := by
  rw [untilClosing?_cons, if_neg (by decide), if_pos rfl]
  rfl

/-- The scanner passes over all other characters. -/
theorem untilClosing?_other (hopening : c ≠ '(') (hclosing : c ≠ ')') :
    untilClosing? depth (c :: rest) = (untilClosing? depth rest).map (Prod.map (c :: ·) id) := by
  rw [untilClosing?_cons, if_neg hopening, if_neg hclosing]
  rfl

/-- The scanner finds no closing parenthesis exactly where one is missing. -/
theorem untilClosing?_eq_none : untilClosing? depth s = none ↔ KeepsOpen depth s := by
  induction s generalizing depth with
  | nil =>
    have hnil : untilClosing? depth [] = none := by cases depth <;> rfl
    simp only [hnil, keepsOpen_nil]
  | cons c rest ih =>
    by_cases hopening : c = '('
    · rw [hopening, untilClosing?_opening, Option.map_eq_none_iff, ih, keepsOpen_opening]
    by_cases hclosing : c = ')'
    · rw [hclosing]
      cases depth with
      | zero => simp only [untilClosing?_last, not_keepsOpen_closing, reduceCtorEq]
      | succ depth => rw [untilClosing?_closing, Option.map_eq_none_iff, ih, keepsOpen_closing]
    · rw [untilClosing?_other hopening hclosing, Option.map_eq_none_iff, ih,
        keepsOpen_other hopening hclosing]

/-- What the scanner finds is the parenthesis that closes the one in front. -/
theorem enclosed_of_untilClosing? (h : untilClosing? depth s = some (params, rest)) :
    s = params ++ ')' :: rest ∧ Enclosed depth params := by
  induction s generalizing depth params with
  | nil => cases depth <;> cases h
  | cons c others ih =>
    -- A character that is passed over stands in front of what is found behind it.
    have hpassed {inner : Nat} (hinner : (untilClosing? inner others).map (Prod.map (c :: ·) id) =
        some (params, rest)) :
        ∃ inside, params = c :: inside ∧ others = inside ++ ')' :: rest ∧
          Enclosed inner inside := by
      obtain ⟨found, hothers, hparts⟩ := Option.map_eq_some_iff.mp hinner
      cases hparts
      exact ⟨found.1, rfl, ih hothers⟩
    by_cases hopening : c = '('
    · rw [hopening] at h hpassed ⊢
      rw [untilClosing?_opening] at h
      obtain ⟨inside, rfl, rfl, hinside⟩ := hpassed h
      exact ⟨rfl, enclosed_opening.mpr hinside⟩
    by_cases hclosing : c = ')'
    · rw [hclosing] at h hpassed ⊢
      cases depth with
      | zero =>
        rw [untilClosing?_last] at h
        cases h
        exact ⟨rfl, enclosed_nil.mpr rfl⟩
      | succ depth =>
        rw [untilClosing?_closing] at h
        obtain ⟨inside, rfl, rfl, hinside⟩ := hpassed h
        exact ⟨rfl, enclosed_closing.mpr hinside⟩
    · rw [untilClosing?_other hopening hclosing] at h
      obtain ⟨inside, rfl, rfl, hinside⟩ := hpassed h
      exact ⟨rfl, (enclosed_other hopening hclosing).mpr hinside⟩

/-- The scanner stops at the parenthesis behind what is enclosed. -/
theorem Enclosed.untilClosing? (h : Enclosed depth params) (rest : List Char) :
    untilClosing? depth (params ++ ')' :: rest) = some (params, rest) := by
  induction params generalizing depth with
  | nil =>
    rw [enclosed_nil.mp h]
    exact untilClosing?_last
  | cons c others ih =>
    rw [List.cons_append]
    by_cases hopening : c = '('
    · rw [hopening] at h ⊢
      rw [untilClosing?_opening, ih (enclosed_opening.mp h)]
      rfl
    by_cases hclosing : c = ')'
    · rw [hclosing] at h ⊢
      cases depth with
      | zero => exact absurd h.keeps not_keepsOpen_closing
      | succ depth =>
        rw [untilClosing?_closing, ih (enclosed_closing.mp h)]
        rfl
    · rw [untilClosing?_other hopening hclosing, ih ((enclosed_other hopening hclosing).mp h)]
      rfl

/-! ### The parts -/

variable {keyword : String} {text : List Char}

/-- What is left of a text: what follows the keyword and white space, if a parenthesis or white
space stands behind the keyword, and otherwise the whole text; less white space at its ends. -/
inductive Remains (keyword : String) (s : List Char) : List Char → Prop
  | behind {gap text : List Char} (split : Text.trim s = keyword.toList ++ (gap ++ text))
      (blank : Text.Blank gap) (apart : gap ≠ [] ∨ text.head? = some '(')
      (first : ∀ c ∈ text.head?, Text.isBlank c = false) : Remains keyword s text
  | whole (bare : ¬ Introduced keyword s) : Remains keyword s (Text.trim s)

/-- The keyword is taken off a text in one way. -/
theorem remains_iff : Remains keyword s text ↔ text = withoutKeyword keyword (Text.trim s) := by
  constructor
  · intro h
    cases h with
    | @behind gap _ split blank apart first =>
      rw [split]
      cases gap with
      | nil =>
        obtain ⟨inside, rfl⟩ := List.head?_eq_some_iff.mp (apart.resolve_left fun h => h rfl)
        exact (withoutKeyword_append keyword inside (Or.inl rfl)).symm
      | cons c gap =>
        have hc : Text.isBlank c = true := blank c List.mem_cons_self
        have hkeyword := withoutKeyword_append keyword (gap ++ text) (Or.inr hc)
        have hstart := Text.trimStart_append blank text
        rw [Text.trimStart_eq first] at hstart
        exact (hkeyword.trans hstart).symm
    | whole bare => exact (withoutKeyword_eq bare).symm
  · rintro rfl
    by_cases hintroduced : Introduced keyword s
    · obtain ⟨c, rest, hsplit, hends⟩ := hintroduced
      rw [hsplit, withoutKeyword_append keyword rest hends]
      have hgap : Text.Blank ((c :: rest).takeWhile Text.isBlank) :=
        List.all_eq_true.mp List.all_takeWhile
      refine .behind ?_ hgap ?_ (Text.head?_trimStart _)
      · rw [hsplit, Text.trimStart, List.takeWhile_append_dropWhile]
      · rcases hends with rfl | hblank
        · exact Or.inr rfl
        · exact Or.inl (by simp [hblank])
    · rw [withoutKeyword_eq hintroduced]
      exact .whole hintroduced

/-- What is left of a text has no white space at its ends. -/
theorem Remains.trimmed (h : Remains keyword s text) : Text.Trimmed text := by
  cases h with
  | behind split _ _ first =>
    have hwhole := Text.trimmed_trim s
    rw [split, ← List.append_assoc] at hwhole
    exact ⟨first, hwhole.last_back⟩
  | whole bare => exact Text.trimmed_trim s

/-- A text whose first opening parenthesis is closed. -/
def Parenthesized (text : List Char) : Prop :=
  ∃ before inside after, text = before ++ '(' :: (inside ++ ')' :: after) ∧ '(' ∉ before ∧
    Enclosed 0 inside

namespace Declaration

/-- The parts of a declaration with white space between them are a text: the name, the parameters
in parentheses, and what is behind them. -/
structure Rebuilds (d : Declaration) (text : List Char) : Prop where
  /-- In a row, with white space at will in front of the parentheses and behind them. -/
  joined : ∃ gap behind, Text.Blank gap ∧ Text.Blank behind ∧
    text = d.name ++ gap ++ '(' :: (d.params ++ ')' :: (behind ++ d.rest))
  /-- Nothing is opened in the name. -/
  unopened : '(' ∉ d.name
  /-- The name has no white space at its ends. -/
  name : Text.Trimmed d.name
  /-- The parameters close the parentheses they open. -/
  params : Enclosed 0 d.params
  /-- What is behind the parameters has no white space at its ends. -/
  rest : Text.Trimmed d.rest

/-- How a declaration is read from what is left of its text: not at all without a parenthesis or
without the one that closes it, and in three parts where both are there. -/
inductive Reads (s text : List Char) : Except DescriptorFault Declaration → Prop
  | missing (unopened : '(' ∉ text) : Reads s text (.error (.missingParameters (String.ofList s)))
  | unclosed {before inside : List Char} (split : text = before ++ '(' :: inside)
      (first : '(' ∉ before) (keeps : KeepsOpen 0 inside) :
      Reads s text (.error (.unbalancedParentheses (String.ofList s)))
  | parts {before inside after : List Char} (split : text = before ++ '(' :: (inside ++ ')' :: after))
      (first : '(' ∉ before) (enclosed : Enclosed 0 inside) :
      Reads s text (.ok ⟨Text.trim before, inside, Text.trim after⟩)

/-- Every declaration is read in one of these ways. -/
theorem reads_ofChars (h : Remains keyword s text) : Reads s text (ofChars keyword s) := by
  rw [remains_iff] at h
  by_cases hmem : '(' ∈ text
  · obtain ⟨before, inside, htext, hbefore⟩ := List.eq_append_cons_of_mem hmem
    cases hclosing : untilClosing? 0 inside with
    | none =>
      rw [ofChars_of_unclosed (h ▸ htext) hbefore hclosing]
      exact .unclosed htext hbefore (untilClosing?_eq_none.mp hclosing)
    | some parts =>
      obtain ⟨hinside, hparams⟩ := enclosed_of_untilClosing? hclosing
      rw [ofChars_of_closed (h ▸ htext) hbefore hclosing]
      exact .parts (hinside ▸ htext) hbefore hparams
  · rw [ofChars_of_not_mem (h ▸ hmem)]
    exact .missing hmem

/-- The parts of a text that is cut at its parentheses rebuild it. -/
theorem rebuilds_of_enclosed {before inside after : List Char} (h : Text.Trimmed text)
    (htext : text = before ++ '(' :: (inside ++ ')' :: after)) (hbefore : '(' ∉ before)
    (hinside : Enclosed 0 inside) :
    Rebuilds ⟨Text.trim before, inside, Text.trim after⟩ text := by
  have hback : text = (before ++ '(' :: (inside ++ [')'])) ++ after := by simp [htext]
  have hhead : ∀ c ∈ before.head?, Text.isBlank c = false := (htext ▸ h).head_front
  have hlast : ∀ c ∈ after.getLast?, Text.isBlank c = false := (hback ▸ h).last_back
  obtain ⟨gap, hgap, hname⟩ := Text.exists_eq_trim_append hhead
  obtain ⟨behind, hbehind, hrest⟩ := Text.exists_eq_gap_append_trim hlast
  refine ⟨⟨gap, behind, hgap, hbehind, ?_⟩, ?_, Text.trimmed_trim before, hinside,
    Text.trimmed_trim after⟩
  · dsimp only
    rw [← hname, ← hrest, htext]
  · exact fun hmem => hbefore (Text.mem_of_mem_trim hmem)

/-- What a declaration is rebuilt from is cut at its parentheses, and the parts are trimmed. -/
theorem Rebuilds.exists_split {d : Declaration} (h : d.Rebuilds text) :
    ∃ before after, text = before ++ '(' :: (d.params ++ ')' :: after) ∧ '(' ∉ before ∧
      d = ⟨Text.trim before, d.params, Text.trim after⟩ := by
  obtain ⟨gap, behind, hgap, hbehind, htext⟩ := h.joined
  have hnothing : Text.Blank [] := by decide
  have hname := h.name.trim_padded hnothing hgap
  have hrest := h.rest.trim_append behind hbehind
  refine ⟨d.name ++ gap, behind ++ d.rest, htext, ?_, ?_⟩
  · intro hmem
    cases List.mem_append.mp hmem with
    | inl hunopened => exact h.unopened hunopened
    | inr hblank => exact absurd (hgap _ hblank) (by decide)
  · rw [List.nil_append] at hname
    rw [hname, hrest]

/-- A declaration has the parts that its text is rebuilt from. -/
theorem ofChars_eq_ok_iff {d : Declaration} (h : Remains keyword s text) :
    ofChars keyword s = .ok d ↔ d.Rebuilds text := by
  constructor
  · intro hparts
    have hreads := reads_ofChars h
    rw [hparts] at hreads
    cases hreads with
    | parts split first enclosed => exact rebuilds_of_enclosed h.trimmed split first enclosed
  · intro hd
    obtain ⟨before, after, htext, hbefore, hparts⟩ := hd.exists_split
    rw [remains_iff.mp h] at htext
    rw [ofChars_of_closed htext hbefore (hd.params.untilClosing? after), ← hparts]

/-- A declaration is read exactly where the first opening parenthesis is closed. -/
theorem exists_ofChars_iff (h : Remains keyword s text) :
    (∃ d, ofChars keyword s = .ok d) ↔ Parenthesized text := by
  constructor
  · intro hread
    obtain ⟨d, hd⟩ := hread
    have hparts := (ofChars_eq_ok_iff h).mp hd
    obtain ⟨before, after, htext, hbefore, -⟩ := hparts.exists_split
    exact ⟨before, d.params, after, htext, hbefore, hparts.params⟩
  · intro htext
    obtain ⟨before, inside, after, hsplit, hbefore, hinside⟩ := htext
    exact ⟨_, (ofChars_eq_ok_iff h).mpr (rebuilds_of_enclosed h.trimmed hsplit hbefore hinside)⟩

/-- Why no declaration is read: no parenthesis is opened, or the first one is not closed. -/
theorem ofChars_eq_error_iff {fault : DescriptorFault} (h : Remains keyword s text) :
    ofChars keyword s = .error fault ↔
      ('(' ∉ text ∧ fault = .missingParameters (String.ofList s)) ∨
        ('(' ∈ text ∧ ¬ Parenthesized text ∧
          fault = .unbalancedParentheses (String.ofList s)) := by
  have hreads := reads_ofChars h
  have hread := exists_ofChars_iff h
  -- From here on only the way of reading counts, not how the result was computed.
  generalize ofChars keyword s = result at hreads hread
  cases hreads with
  | missing unopened => simp [unopened, eq_comm]
  | unclosed split first keeps =>
    have hmem : '(' ∈ text := by simp [split]
    have hopen : ¬ Parenthesized text := by simp [← hread]
    simp [hmem, hopen, eq_comm]
  | parts split first enclosed =>
    have hmem : '(' ∈ text := by simp [split]
    have hclosed : Parenthesized text := by simp [← hread]
    simp [hmem, hclosed]

end Declaration

/-! ### Positions of parentheses -/

open Text

/-- From inside of a parenthesis the closing one is found where the scanner finds it, with at least
one parenthesis open at every step. -/
theorem yields_closingFrom {opened position size : Nat} (hdepth : depth + 1 + octetCount s ≤ size)
    (hposition : opened + position + octetCount s ≤ size) :
    Yields size (closingFrom opened (depth + 1) (positioned position s))
      ((untilClosing? depth s).map fun parts => opened + (position + octetCount parts.1)) := by
  induction s generalizing depth position with
  | nil =>
    cases depth <;> exact .ok _
  | cons c rest ih =>
    rw [octetCount_cons] at hdepth hposition
    have hpos := c.utf8Size_pos
    have hbehind : opened + (position + c.utf8Size) + octetCount rest ≤ size := by omega
    -- A character that is passed over moves the position by its octets.
    have hpassed (inner : Nat) :
        ((untilClosing? inner rest).map (Prod.map (c :: ·) id)).map
            (fun parts => opened + (position + octetCount parts.1)) =
          (untilClosing? inner rest).map fun parts =>
            opened + (position + c.utf8Size + octetCount parts.1) := by
      rw [Option.map_map]
      refine Option.map_congr fun parts _ => ?_
      simp only [Function.comp_apply, Prod.map_fst, octetCount_cons]
      omega
    rw [positioned, closingFrom]
    by_cases hopening : c = '('
    · have hdeeper : Yields size (plus (depth + 1) 1) (depth + 1 + 1) := .plus (by omega)
      rw [hopening] at hpassed hbehind ⊢
      rw [if_pos rfl, untilClosing?_opening, hpassed]
      exact hdeeper.bind (ih (by omega) hbehind)
    rw [if_neg hopening]
    by_cases hclosing : c = ')'
    · have hleft : Yields size (minus (depth + 1) 1) depth := .minus depth 1
      rw [hclosing] at hpassed hbehind ⊢
      rw [if_pos rfl]
      refine hleft.bind ?_
      cases depth with
      | zero =>
        have hclosed : Yields size (plus opened position) (opened + position) := .plus (by omega)
        rw [untilClosing?_last]
        exact hclosed.bind (.ok _)
      | succ depth =>
        rw [if_neg (Nat.succ_ne_zero depth), untilClosing?_closing, hpassed]
        exact ih (by omega) hbehind
    · rw [if_neg hclosing, untilClosing?_other hopening hclosing, hpassed]
      exact ih (by omega) hbehind

/-- A character of one octet between two texts adds that octet. -/
theorem octetCount_around {c : Char} (h : c.utf8Size = 1) (front behind : List Char) :
    octetCount (front ++ c :: behind) = octetCount front + 1 + octetCount behind := by
  rw [octetCount_append, octetCount_cons, h, Nat.add_assoc]

/-- The parenthesis that closes the first one stands behind what it encloses. -/
theorem yields_closingPosition (before inside : List Char) :
    Yields (octetCount (before ++ '(' :: inside))
      (closingPosition (before ++ '(' :: inside) (octetCount before))
      ((untilClosing? 0 inside).map fun parts => octetCount (before ++ '(' :: parts.1)) := by
  have hopening : '('.utf8Size = 1 := rfl
  have hsize := octetCount_around hopening before inside
  have hfirst : Yields (octetCount (before ++ '(' :: inside)) (plus 0 1) (0 + 1) := .plus (by omega)
  have hclosing : Yields (octetCount (before ++ '(' :: inside))
      (closingFrom (octetCount before) (0 + 1) (positioned (0 + 1) inside))
      ((untilClosing? 0 inside).map fun parts =>
        octetCount before + (0 + 1 + octetCount parts.1)) :=
    yields_closingFrom (by omega) (by omega)
  have hposition (parts : List Char × List Char) :
      octetCount (before ++ '(' :: parts.1) = octetCount before + (0 + 1 + octetCount parts.1) := by
    rw [octetCount_around hopening, Nat.add_assoc]
  simp only [hposition]
  rw [closingPosition, slice_behind]
  change Yields _ (closingFrom (octetCount before) 0 (positioned 0 ('(' :: inside))) _
  rw [positioned, closingFrom, if_pos rfl, hopening]
  exact hfirst.bind hclosing

/-- A text with parentheses is cut at their positions, each of them having one octet. -/
theorem slices_eq (before inside after : List Char) :
    slice (before ++ '(' :: (inside ++ ')' :: after)) 0 (octetCount before) = .ok before ∧
      slice (before ++ '(' :: (inside ++ ')' :: after)) (octetCount before + 1)
        (octetCount (before ++ '(' :: inside)) = .ok inside ∧
      slice (before ++ '(' :: (inside ++ ')' :: after)) (octetCount (before ++ '(' :: inside) + 1)
        (octetCount (before ++ '(' :: (inside ++ ')' :: after))) = .ok after := by
  have hopened : octetCount (before ++ ['(']) = octetCount before + 1 := octetCount_append _ _
  have hclosed : octetCount (before ++ '(' :: inside ++ [')']) =
      octetCount (before ++ '(' :: inside) + 1 := octetCount_append _ _
  have hname := slice_front before ('(' :: (inside ++ ')' :: after))
  have hparams := slice_append (before ++ ['(']) inside (')' :: after)
  have hrest := slice_behind (before ++ '(' :: inside ++ [')']) after
  rw [hopened] at hparams
  rw [hclosed] at hrest
  simp only [List.append_assoc, List.cons_append, List.nil_append] at hparams hrest
  exact ⟨hname, hparams, hrest⟩

/-- What is left of a text has no more octets than the text. -/
theorem octetCount_withoutKeyword_le (keyword : String) (s : List Char) :
    octetCount (withoutKeyword keyword (trim s)) ≤ octetCount s := by
  have hremains : Remains keyword s (withoutKeyword keyword (trim s)) := remains_iff.mpr rfl
  have htrim := octetCount_le_of_sublist (trim_sublist s)
  generalize withoutKeyword keyword (trim s) = text at hremains ⊢
  cases hremains with
  | behind split _ _ _ =>
    rw [split, octetCount_append, octetCount_append] at htrim
    omega
  | whole bare => exact htrim

namespace Declaration

/-- Cutting at positions yields the parts that the characters have. -/
theorem yields_cut (keyword : String) (s : List Char) :
    Yields (octetCount s) (cut keyword s) (ofChars keyword s) := by
  refine Yields.mono ?_ (octetCount_withoutKeyword_le keyword s)
  have hreads : Reads s (withoutKeyword keyword (trim s)) (ofChars keyword s) :=
    reads_ofChars (remains_iff.mpr rfl)
  rw [cut]
  generalize withoutKeyword keyword (trim s) = text at hreads ⊢
  generalize ofChars keyword s = result at hreads ⊢
  cases hreads with
  | missing unopened =>
    rw [positionOf?_eq_none unopened]
    exact .ok _
  | @unclosed before inside split first keeps =>
    have hclosing := yields_closingPosition before inside
    rw [untilClosing?_eq_none.mpr keeps, Option.map_none] at hclosing
    rw [split, positionOf?_append first]
    exact hclosing.bind (.ok _)
  | @parts before inside after split first enclosed =>
    have hclosing := yields_closingPosition before (inside ++ ')' :: after)
    rw [enclosed.untilClosing?, Option.map_some] at hclosing
    obtain ⟨hname, hparams, hrest⟩ := slices_eq before inside after
    have hopening : '('.utf8Size = 1 := rfl
    have hending : ')'.utf8Size = 1 := rfl
    have hinside := octetCount_around hopening before inside
    have hparts := octetCount_around hopening before (inside ++ ')' :: after)
    have hafter := octetCount_around hending inside after
    have hopened : Yields (octetCount (before ++ '(' :: (inside ++ ')' :: after)))
        (plus (octetCount before) 1) (octetCount before + 1) := .plus (by omega)
    have hclosed : Yields (octetCount (before ++ '(' :: (inside ++ ')' :: after)))
        (plus (octetCount (before ++ '(' :: inside)) 1) (octetCount (before ++ '(' :: inside) + 1) :=
      .plus (by omega)
    rw [split, positionOf?_append first]
    refine hclosing.bind ((Yields.of_eq hname).bind (hopened.bind ?_))
    exact (Yields.of_eq hparams).bind (hclosed.bind ((Yields.of_eq hrest).bind (.ok _)))

/-- Declarations in parts. Whatever the text and the keyword are, cutting at positions gives what
cutting between characters gives: the count of open parentheses never falls below zero, no cut is
inside of a character, and a sum is a size unless the text has more octets than sizes can count.
Less the keyword exactly one text is left. It is read as a declaration exactly where its first
opening parenthesis is closed, and then as the only one from whose parts, with white space between
them, it is rebuilt; otherwise the fault says which parenthesis is missing. -/
theorem cut_ok_iff_rebuilds (keyword : String) (s : List Char) :
    (cut keyword s = .ok (ofChars keyword s) ∨
      (cut keyword s = .error .overflow ∧ Machine.sizeLimit ≤ octetCount s)) ∧
    ∃ text, (∀ left, Remains keyword s left ↔ left = text) ∧
      ((∃ d, ofChars keyword s = .ok d) ↔ Parenthesized text) ∧
      (∀ d, ofChars keyword s = .ok d ↔ d.Rebuilds text) ∧
      (∀ fault, ofChars keyword s = .error fault ↔
        ('(' ∉ text ∧ fault = .missingParameters (String.ofList s)) ∨
          ('(' ∈ text ∧ ¬ Parenthesized text ∧
            fault = .unbalancedParentheses (String.ofList s))) := by
  have hremains : Remains keyword s (withoutKeyword keyword (trim s)) := remains_iff.mpr rfl
  refine ⟨yields_cut keyword s, withoutKeyword keyword (trim s), fun left => remains_iff,
    exists_ofChars_iff hremains, fun d => ofChars_eq_ok_iff hremains, fun fault => ?_⟩
  exact ofChars_eq_error_iff hremains

/-- Characters of several octets, a bracket of the other kind, and more closed behind the
parameters than is opened there. -/
example : cut "function" " function\u2003é ((a]) ) rest )".toList =
    .ok (.ok ⟨"é".toList, "(a]) ".toList, "rest )".toList⟩) := by decide +kernel

/-- It is the first parenthesis that has to be closed; a later one does not stand in for it. -/
example : ofChars "" "f((x)".toList = .error (.unbalancedParentheses "f((x)") := by decide +kernel

end Declaration

end ContractToolkit.Interface
