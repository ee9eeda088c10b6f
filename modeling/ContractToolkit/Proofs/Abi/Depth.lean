import ContractToolkit.Abi.Components
import ContractToolkit.Proofs.Text.Words
import Mathlib.Tactic.SplitIfs

/-!
# The depth of brackets

Types and lists are cut by scanners that count open brackets, round and square
ones alike, so for them a bracket may be closed by one of the other kind. A text
is passed over by such a scanner as soon as the count never falls below zero and
ends at zero; what stands inside of brackets is a matter of that count only.
-/

namespace ContractToolkit.Abi

/-- What the scanner for components does at a character, at any depth. -/
theorem piecesFrom_cons (depth : Nat) (current : List Char) (c : Char) (rest : List Char) :
    piecesFrom depth current (c :: rest) =
      if isOpening c then piecesFrom (depth + 1) (c :: current) rest
      else if isClosing c then
        match depth with
        | 0 => none
        | depth + 1 => piecesFrom depth (c :: current) rest
      else if c = ',' ∧ depth = 0 then (piecesFrom 0 [] rest).map (current.reverse :: ·)
      else piecesFrom depth (c :: current) rest := by
  cases depth with
  | zero => rw [piecesFrom.eq_def]
  | succ depth => rw [piecesFrom.eq_def]

/-- A closing bracket opens nothing. -/
theorem not_isOpening_of_isClosing {c : Char} (h : isClosing c = true) : ¬ isOpening c = true := by
  simp only [isClosing, Bool.or_eq_true, beq_iff_eq] at h
  rcases h with rfl | rfl
  · exact Bool.false_ne_true
  · exact Bool.false_ne_true

/-- White space is no bracket and no comma. -/
theorem no_cut_of_isBlank {c : Char} (h : Text.isBlank c = true) :
    isOpening c = false ∧ isClosing c = false ∧ c ≠ ',' := by
  have hother (d : Char) (hd : Text.isBlank d = false) : c ≠ d := by
    rintro rfl
    rw [h] at hd
    cases hd
  refine ⟨?_, ?_, hother ',' (by decide)⟩
  · simp [isOpening, hother '(' (by decide), hother '[' (by decide)]
  · simp [isClosing, hother ')' (by decide), hother ']' (by decide)]

/-- A text that closes `depth` brackets and no more, with only certain characters outside of all
brackets. -/
inductive Spans (outside : Char → Prop) : (depth : Nat) → List Char → Prop
  | nil : Spans outside 0 []
  | opening {depth : Nat} {c : Char} {rest : List Char} (bracket : isOpening c = true)
      (others : Spans outside (depth + 1) rest) : Spans outside depth (c :: rest)
  | closing {depth : Nat} {c : Char} {rest : List Char} (bracket : isClosing c = true)
      (others : Spans outside depth rest) : Spans outside (depth + 1) (c :: rest)
  | char {depth : Nat} {c : Char} {rest : List Char} (noOpening : isOpening c = false)
      (noClosing : isClosing c = false) (allowed : depth = 0 → outside c)
      (others : Spans outside depth rest) : Spans outside depth (c :: rest)

namespace Spans

variable {outside wider : Char → Prop} {depth : Nat} {s t : List Char}

/-- Behind such a text there may be one that closes nothing more. -/
theorem append (hs : Spans outside depth s) (ht : Spans outside 0 t) :
    Spans outside depth (s ++ t) := by
  induction hs with
  | nil => exact ht
  | opening bracket _ ih => exact .opening bracket ih
  | closing bracket _ ih => exact .closing bracket ih
  | char noOpening noClosing allowed _ ih => exact .char noOpening noClosing allowed ih

/-- More characters may be allowed outside. -/
theorem mono (h : Spans outside depth s) (hwider : ∀ c, outside c → wider c) :
    Spans wider depth s := by
  induction h with
  | nil => exact .nil
  | opening bracket _ ih => exact .opening bracket ih
  | closing bracket _ ih => exact .closing bracket ih
  | char noOpening noClosing allowed _ ih =>
    exact .char noOpening noClosing (fun hzero => hwider _ (allowed hzero)) ih

/-- Inside of brackets any character is allowed. -/
theorem enclosed (hs : Spans wider depth s) {closing : Char} (hclosing : isClosing closing = true)
    {behind : Nat} (ht : Spans outside behind t) :
    Spans outside (depth + behind + 1) (s ++ closing :: t) := by
  induction hs with
  | nil =>
    rw [Nat.zero_add]
    exact .closing hclosing ht
  | @opening depth c rest bracket _ ih =>
    have hdepth : depth + 1 + behind + 1 = depth + behind + 1 + 1 := by omega
    exact .opening bracket (hdepth ▸ ih)
  | @closing depth c rest bracket _ ih =>
    have hdepth : depth + 1 + behind + 1 = depth + behind + 1 + 1 := by omega
    exact hdepth ▸ .closing bracket ih
  | char noOpening noClosing _ _ ih =>
    exact .char noOpening noClosing (fun hzero => absurd hzero (Nat.succ_ne_zero _)) ih

/-- A group in brackets, with what follows it. -/
theorem group {opening closing : Char} (hopening : isOpening opening = true)
    (hclosing : isClosing closing = true) (hs : Spans wider 0 s) (ht : Spans outside 0 t) :
    Spans outside 0 (opening :: (s ++ closing :: t)) :=
  .opening hopening (hs.enclosed hclosing ht)

/-- A text without brackets closes nothing. -/
theorem of_forall (h : ∀ c ∈ s, isOpening c = false ∧ isClosing c = false ∧ outside c) :
    Spans outside 0 s := by
  induction s with
  | nil => exact .nil
  | cons c rest ih =>
    obtain ⟨noOpening, noClosing, allowed⟩ := h c List.mem_cons_self
    exact .char noOpening noClosing (fun _ => allowed) (ih fun d hd =>
      h d (List.mem_cons_of_mem _ hd))

/-- White space closes nothing and has no comma. -/
theorem of_blank {gap : List Char} (hgap : Text.Blank gap) : Spans (· ≠ ',') 0 gap :=
  .of_forall fun c hc => no_cut_of_isBlank (hgap c hc)

/-- The scanner for components takes such a text into the piece that is under way, where it has no
comma to cut at. -/
theorem piecesFrom_append (h : Spans (· ≠ ',') depth s) (current rest : List Char) :
    piecesFrom depth current (s ++ rest) = piecesFrom 0 (s.reverse ++ current) rest := by
  induction h generalizing current with
  | nil => rfl
  | opening bracket _ ih =>
    rw [List.cons_append, piecesFrom_cons, if_pos bracket, ih]
    simp
  | closing bracket _ ih =>
    rw [List.cons_append, piecesFrom_cons, if_neg (not_isOpening_of_isClosing bracket),
      if_pos bracket]
    dsimp only
    rw [ih]
    simp
  | @char depth c others noOpening noClosing allowed _ ih =>
    have hcut : ¬ (c = ',' ∧ depth = 0) := fun hc => allowed hc.2 hc.1
    rw [List.cons_append, piecesFrom_cons, noOpening, noClosing, if_neg Bool.false_ne_true,
      if_neg Bool.false_ne_true, if_neg hcut, ih]
    simp

/-- The scanner for the first word goes on behind such a text, where it has no white space to stop
at. -/
theorem firstWordFrom_append (h : Spans (Text.isBlank · = false) depth s) (rest : List Char) :
    firstWordFrom depth (s ++ rest) = (s ++ (firstWordFrom 0 rest).1, (firstWordFrom 0 rest).2) := by
  induction h with
  | nil => rfl
  | opening bracket _ ih =>
    rw [List.cons_append, firstWordFrom, if_pos bracket, ← Int.natCast_succ, ih]
    rfl
  | @closing depth c others bracket _ ih =>
    rw [List.cons_append, firstWordFrom, if_neg (not_isOpening_of_isClosing bracket),
      if_pos bracket, Int.natCast_succ, Int.add_sub_cancel, ih]
    rfl
  | @char depth c others noOpening noClosing allowed _ ih =>
    have hstop : ¬ (Text.isBlank c = true ∧ (depth : Int) = 0) := by
      rintro ⟨hc, hzero⟩
      rw [allowed (Int.ofNat_eq_zero.mp hzero)] at hc
      cases hc
    rw [List.cons_append, firstWordFrom, noOpening, noClosing, if_neg Bool.false_ne_true,
      if_neg Bool.false_ne_true, if_neg hstop, ih]
    rfl

/-- Whatever the scanner for components gets through closes the brackets that are open. -/
theorem of_piecesFrom {current : List Char} {pieces : List (List Char)}
    (h : piecesFrom depth current s = some pieces) : Spans (fun _ => True) depth s := by
  induction s generalizing depth current pieces with
  | nil =>
    cases depth with
    | zero => exact .nil
    | succ depth => cases h
  | cons c rest ih =>
    rw [piecesFrom_cons] at h
    by_cases hopening : isOpening c = true
    · rw [if_pos hopening] at h
      exact .opening hopening (ih h)
    rw [if_neg hopening] at h
    by_cases hclosing : isClosing c = true
    · rw [if_pos hclosing] at h
      cases depth with
      | zero => cases h
      | succ depth => exact .closing hclosing (ih h)
    rw [if_neg hclosing] at h
    have hothers : Spans (fun _ => True) depth rest := by
      split at h
      · rename_i hcomma
        obtain ⟨later, hlater, -⟩ := Option.map_eq_some_iff.mp h
        exact hcomma.2 ▸ ih hlater
      · exact ih h
    exact .char (Bool.not_eq_true _ ▸ hopening) (Bool.not_eq_true _ ▸ hclosing) (fun _ => trivial)
      hothers

end Spans

/-- Pieces joined with commas are the text they were cut from. -/
theorem intercalate_piecesFrom {depth : Nat} {current s : List Char} {pieces : List (List Char)}
    (h : piecesFrom depth current s = some pieces) :
    pieces ≠ [] ∧ [','].intercalate pieces = current.reverse ++ s := by
  induction s generalizing depth current pieces with
  | nil =>
    cases depth with
    | zero =>
      cases h
      exact ⟨List.cons_ne_nil _ _, by simp⟩
    | succ depth => cases h
  | cons c rest ih =>
    -- A character that is no comma to cut at goes to the piece under way.
    have htaken {depth : Nat} (hrest : piecesFrom depth (c :: current) rest = some pieces) :
        pieces ≠ [] ∧ [','].intercalate pieces = current.reverse ++ c :: rest := by
      have hjoined := ih hrest
      rw [List.reverse_cons, List.append_assoc] at hjoined
      exact hjoined
    rw [piecesFrom_cons] at h
    split_ifs at h with hopening hclosing hcomma
    · exact htaken h
    · cases depth with
      | zero => cases h
      | succ depth => exact htaken h
    · obtain ⟨later, hlater, rfl⟩ := Option.map_eq_some_iff.mp h
      obtain ⟨hne, hjoined⟩ := ih hlater
      obtain ⟨next, others, rfl⟩ := List.exists_cons_of_ne_nil hne
      refine ⟨List.cons_ne_nil _ _, ?_⟩
      rw [List.intercalate_cons_cons, hjoined, hcomma.1]
      simp
    · exact htaken h

/-- What is cut into components: the pieces between its commas without white space around them, or
nothing where all of it is blank. -/
theorem components_eq_ok {s : List Char} {parts : List (List Char)} :
    components s = .ok parts ↔ ∃ pieces, piecesFrom 0 [] s = some pieces ∧
      ((pieces.map Text.trim = [[]] ∧ parts = []) ∨
        (pieces.map Text.trim = parts ∧ ∀ p ∈ parts, p ≠ [])) := by
  rw [components]
  cases piecesFrom 0 [] s with
  | none => simp
  | some pieces =>
    simp only [Option.some.injEq, exists_eq_left']
    split
    · rename_i hblank
      constructor
      · intro h
        exact Or.inl ⟨hblank, (Except.ok.inj h).symm⟩
      · rintro (⟨-, rfl⟩ | ⟨rfl, hne⟩)
        · rfl
        · exact absurd rfl (hne [] (hblank ▸ List.mem_cons_self))
    · rename_i hsome
      by_cases hempty : (pieces.map Text.trim).any List.isEmpty = true
      · obtain ⟨p, hp, hnil⟩ := List.any_eq_true.mp hempty
        rw [if_pos hempty]
        constructor
        · intro h
          cases h
        · rintro (⟨hblank, -⟩ | ⟨rfl, hne⟩)
          · exact absurd hblank hsome
          · exact absurd (List.isEmpty_iff.mp hnil) (hne p hp)
      · rw [if_neg hempty]
        constructor
        · intro h
          cases h
          refine Or.inr ⟨rfl, fun p hp hnil => hempty ?_⟩
          exact List.any_eq_true.mpr ⟨p, hp, List.isEmpty_iff.mpr hnil⟩
        · rintro (⟨hblank, -⟩ | ⟨rfl, -⟩)
          · exact absurd hblank hsome
          · rfl

/-- Whatever is cut into components closes the brackets it opens. -/
theorem spans_of_components {s : List Char} {parts : List (List Char)}
    (h : components s = .ok parts) : Spans (fun _ => True) 0 s := by
  obtain ⟨pieces, hpieces, -⟩ := components_eq_ok.mp h
  exact .of_piecesFrom hpieces

/-- A component is not empty, has no white space at its ends and is no longer than the text. -/
theorem ends_of_components {s part : List Char} {parts : List (List Char)}
    (h : components s = .ok parts) (hpart : part ∈ parts) :
    part ≠ [] ∧ Text.Trimmed part ∧ part.length ≤ s.length := by
  obtain ⟨pieces, hpieces, ⟨-, rfl⟩ | ⟨rfl, hne⟩⟩ := components_eq_ok.mp h
  · cases hpart
  obtain ⟨piece, hpiece, rfl⟩ := List.mem_map.mp hpart
  obtain ⟨-, hjoined⟩ := intercalate_piecesFrom hpieces
  have hlength : piece.length ≤ s.length := by
    rw [List.reverse_nil, List.nil_append] at hjoined
    exact hjoined ▸ Text.length_le_intercalate hpiece
  exact ⟨hne _ hpart, Text.trimmed_trim piece, Nat.le_trans (Text.length_trim_le piece) hlength⟩

/-- Components with commas between them are cut at these commas, the white space behind a comma
staying with the component that follows. -/
theorem piecesFrom_intercalate {gap part : List Char} {rest : List (List Char)}
    (hgap : Text.Blank gap)
    (h : ∀ p ∈ part :: rest, Spans (· ≠ ',') 0 p) (current : List Char) :
    piecesFrom 0 current ((',' :: gap).intercalate (part :: rest)) =
      some ((current.reverse ++ part) :: rest.map (gap ++ ·)) := by
  induction rest generalizing part current with
  | nil =>
    have hpart := (h part List.mem_cons_self).piecesFrom_append current []
    rw [List.intercalate_singleton, ← List.append_nil part, hpart]
    simp [piecesFrom]
  | cons next rest ih =>
    have hpart := (h part List.mem_cons_self).piecesFrom_append current
      ((',' :: gap) ++ (',' :: gap).intercalate (next :: rest))
    have hblank := (Spans.of_blank hgap).piecesFrom_append []
      ((',' :: gap).intercalate (next :: rest))
    have hrest := ih (fun p hp => h p (List.mem_cons_of_mem _ hp)) (gap.reverse ++ [])
    rw [List.intercalate_cons_cons, List.append_assoc, hpart, List.cons_append, piecesFrom_cons,
      if_neg (by decide), if_neg (by decide), if_pos ⟨rfl, rfl⟩, hblank, hrest]
    simp

/-- A list is cut into the components it was put together from, with or without white space behind
the commas. -/
theorem components_join {gap : List Char} {parts : List (List Char)} (hgap : Text.Blank gap)
    (h : ∀ p ∈ parts, p ≠ [] ∧ Text.Trimmed p ∧ Spans (· ≠ ',') 0 p) :
    components ((',' :: gap).intercalate parts) = .ok parts := by
  cases parts with
  | nil => rfl
  | cons part rest =>
    have hpieces := piecesFrom_intercalate hgap (fun p hp => (h p hp).2.2) []
    have hpart : Text.trim part = part := (h part List.mem_cons_self).2.1.trim_eq
    have htrim (p : List Char) (hp : p ∈ rest) : (Text.trim ∘ (gap ++ ·)) p = id p :=
      (h p (List.mem_cons_of_mem _ hp)).2.1.trim_append gap hgap
    have hrest : (rest.map (gap ++ ·)).map Text.trim = rest := by
      rw [List.map_map, List.map_congr_left htrim, List.map_id]
    refine components_eq_ok.mpr ⟨_, hpieces, Or.inr ⟨?_, fun p hp => (h p hp).1⟩⟩
    rw [List.map_cons, List.reverse_nil, List.nil_append, hpart, hrest]

/-- A text without a comma outside of its brackets is the only component of itself, but for white
space at its ends. -/
theorem components_singleton {s : List Char} (h : Spans (· ≠ ',') 0 s) (hne : Text.trim s ≠ []) :
    components s = .ok [Text.trim s] := by
  have hpieces : piecesFrom 0 [] s = some [s] := by
    have htaken := h.piecesFrom_append [] []
    rw [List.append_nil, List.append_nil] at htaken
    rw [htaken, piecesFrom, List.reverse_reverse]
  exact components_eq_ok.mpr ⟨[s], hpieces, Or.inr ⟨rfl, List.forall_mem_singleton.mpr hne⟩⟩

/-- The first word and what follows it are the text. -/
theorem firstWordFrom_append_snd (depth : Int) (s : List Char) :
    (firstWordFrom depth s).1 ++ (firstWordFrom depth s).2 = s := by
  induction s generalizing depth with
  | nil => rfl
  | cons c rest ih =>
    rw [firstWordFrom]
    split_ifs
    · exact congrArg (c :: ·) (ih (depth + 1))
    · exact congrArg (c :: ·) (ih (depth - 1))
    · rfl
    · exact congrArg (c :: ·) (ih depth)

/-- A first word is no longer than the text. -/
theorem length_firstWord_le (s : List Char) : (firstWord s).1.length ≤ s.length := by
  have hlength := congrArg List.length (firstWordFrom_append_snd 0 s)
  rw [List.length_append] at hlength
  exact hlength ▸ Nat.le_add_right _ _

/-- A text without white space outside of its brackets, which never close more than was opened
before. -/
def Unbroken (s : List Char) : Prop := Spans (Text.isBlank · = false) 0 s

namespace Unbroken

variable {front : List Char}

/-- The first word begins with such a text and goes on in what follows it. -/
theorem firstWord_front (h : Unbroken front) (rest : List Char) :
    firstWord (front ++ rest) = (front ++ (firstWord rest).1, (firstWord rest).2) :=
  h.firstWordFrom_append rest

/-- White space behind such a text ends the first word. -/
theorem firstWord_append (h : Unbroken front) {gap : Char} (hgap : Text.isBlank gap = true)
    (rest : List Char) : firstWord (front ++ gap :: rest) = (front, gap :: rest) := by
  obtain ⟨noOpening, noClosing, -⟩ := no_cut_of_isBlank hgap
  have hstop : firstWord (gap :: rest) = ([], gap :: rest) := by
    rw [firstWord, firstWordFrom, noOpening, noClosing, if_neg Bool.false_ne_true,
      if_neg Bool.false_ne_true, if_pos ⟨hgap, rfl⟩]
  rw [h.firstWord_front, hstop, List.append_nil]

/-- Such a text is one word. -/
theorem firstWord_eq (h : Unbroken front) : firstWord front = (front, []) := by
  have hnothing : firstWord [] = ([], []) := rfl
  have hword := h.firstWord_front []
  rw [hnothing, List.append_nil] at hword
  exact hword

end Unbroken

end ContractToolkit.Abi
