import ContractToolkit.Proofs.Json.Tokens

/-!
# JSON values are read back from their compact texts

Reading has two steps, and so has reading back: the compact text of a value
gives a document, whatever follows the text, and the document gives the value
as long as its brackets are not nested too deep for the room there is. Doubles
and objects are left out: a double may be read back as its neighbour.
-/

namespace ContractToolkit

open JsonDraft

namespace Json

mutual

/-- Levels of brackets in a value. -/
def levels : Json → Nat
  | array items => itemLevels items + 1
  | object fields => fieldLevels fields + 1
  | _ => 0

/-- Levels of brackets in the deepest of some values. -/
def itemLevels : List Json → Nat
  | [] => 0
  | j :: rest => max (levels j) (itemLevels rest)

/-- Levels of brackets in the deepest of some fields. -/
def fieldLevels : List (String × Json) → Nat
  | [] => 0
  | (_, j) :: rest => max (levels j) (fieldLevels rest)

end

/-- A value without doubles and objects in it, its integers being of 64 bits. -/
inductive Plain : Json → Prop
  | null : Plain .null
  | bool (b : Bool) : Plain (.bool b)
  | integer {n : Int} (low : -2 ^ 63 ≤ n) (high : n < Machine.sizeLimit) : Plain (.integer n)
  | string (s : String) : Plain (.string s)
  | array {items : List Json} (members : ∀ item ∈ items, Plain item) : Plain (.array items)

/-- A text begins with a character that is neither white space nor a closing bracket, and behind
that character it is as long as another one at the least. -/
def Begins (chars after : List Char) : Prop :=
  ∃ c rest, chars = c :: rest ∧ isSpace c = false ∧ c ≠ ']' ∧ after.length ≤ rest.length

/-- A text that begins so is longer than the other one. -/
theorem Begins.length_lt {chars after : List Char} (h : Begins chars after) :
    after.length < chars.length := by
  obtain ⟨c, rest, rfl, -, -, hlength⟩ := h
  exact Nat.lt_succ_of_le hlength

/-- Less is left behind the first character when less was there. -/
theorem Begins.mono {chars after less : List Char} (h : Begins chars after)
    (hless : less.length ≤ after.length) : Begins chars less := by
  obtain ⟨c, rest, hchars, hspace, hbracket, hlength⟩ := h
  exact ⟨c, rest, hchars, hspace, hbracket, Nat.le_trans hless hlength⟩

/-- A document is what the compact text of a value holds. -/
structure Drafts (draft : JsonDraft) (j : Json) : Prop where
  /-- The text is not taken for white space or for the end of an array. -/
  first : ∀ after, Begins (compactOnto after j) after
  /-- The text is read, with two steps for each of its characters at most. -/
  text : ∀ fuel after, Closed after → 2 * (compactOnto after j).length ≤ fuel + 1 →
    readValue fuel (compactOnto after j) = some (draft, after)
  /-- The document gives the value when there is room for its brackets. -/
  value : ∀ room, draft.value? room = if j.levels ≤ room then some j else none

/-- White space is only skipped where there is some. -/
theorem skipSpace_cons {c : Char} (h : isSpace c = false) (rest : List Char) :
    skipSpace (c :: rest) = c :: rest :=
  List.dropWhile_cons_of_neg (by simp [h])

/-- A character with which an integer begins is no white space. -/
theorem isSpace_of_leadsInt {c : Char} (hc : Text.LeadsInt c) : isSpace c = false := by
  have hother := hc.ne
  simp only [isSpace, Bool.or_eq_false_iff, beq_eq_false_iff_ne]
  exact ⟨⟨⟨hother ' ' (by decide), hother '\n' (by decide)⟩, hother '\t' (by decide)⟩,
    hother '\r' (by decide)⟩

/-- A character with which an integer begins begins nothing but a number. -/
theorem readValue_number {c : Char} (hc : Text.LeadsInt c) (fuel : Nat) (rest : List Char) :
    readValue (fuel + 1) (c :: rest) =
      (readNumber (c :: rest)).map fun read => (.number read.1, read.2) := by
  have hother := hc.ne
  rw [readValue, skipSpace_cons (isSpace_of_leadsInt hc)]
  split
  case h_1 hnil => cases hnil
  case h_2 h => exact absurd (List.cons.inj h).1 (hother '"' (by decide))
  case h_3 h => exact absurd (List.cons.inj h).1 (hother '[' (by decide))
  case h_4 h => exact absurd (List.cons.inj h).1 (hother '\x7b' (by decide))
  case h_5 h => exact absurd (List.cons.inj h).1 (hother 'n' (by decide))
  case h_6 h => exact absurd (List.cons.inj h).1 (hother 't' (by decide))
  case h_7 h => exact absurd (List.cons.inj h).1 (hother 'f' (by decide))
  case h_8 => rfl

/-- The document of an integer holds its text. -/
theorem readValue_ofInt (n : Int) (fuel : Nat) {after : List Char} (h : Closed after) :
    readValue (fuel + 1) ((Text.ofInt n).toList ++ after) = some (.number (.ofInt n), after) := by
  obtain ⟨c, rest, hchars, hc⟩ := Text.ofInt_eq_cons n
  have hread := readNumber_ofInt n h
  rw [hchars, List.cons_append] at hread ⊢
  rw [readValue_number hc, hread]
  rfl

namespace Drafts

/-- Reading has fuel for its first step, since no value has an empty text. -/
theorem of_step {draft : JsonDraft} {j : Json}
    (first : ∀ after, Begins (compactOnto after j) after)
    (step : ∀ fuel after, Closed after → 2 * (compactOnto after j).length ≤ fuel + 2 →
      readValue (fuel + 1) (compactOnto after j) = some (draft, after))
    (value : ∀ room, draft.value? room = if j.levels ≤ room then some j else none) :
    Drafts draft j := by
  refine ⟨first, fun fuel after hafter hfuel => ?_, value⟩
  cases fuel with
  | zero =>
    have hlength := (first after).length_lt
    omega
  | succ fuel => exact step fuel after hafter hfuel

/-- The absent value is read back. -/
theorem null : Drafts .null .null :=
  of_step (fun after => ⟨'n', 'u' :: 'l' :: 'l' :: after, rfl, by decide, by decide,
      by simp only [List.length_cons]; omega⟩)
    (fun _ _ _ _ => rfl) (fun _ => rfl)

/-- A truth value is read back. -/
theorem bool (b : Bool) : Drafts (.bool b) (.bool b) := by
  cases b with
  | true =>
    exact of_step (fun after => ⟨'t', 'r' :: 'u' :: 'e' :: after, rfl, by decide, by decide,
        by simp only [List.length_cons]; omega⟩)
      (fun _ _ _ _ => rfl) (fun _ => rfl)
  | false =>
    exact of_step (fun after => ⟨'f', 'a' :: 'l' :: 's' :: 'e' :: after, rfl, by decide, by decide,
        by simp only [List.length_cons]; omega⟩)
      (fun _ _ _ _ => rfl) (fun _ => rfl)

/-- A text is read back. -/
theorem string (s : String) : Drafts (.string (some s)) (.string s) := by
  have hchars (after : List Char) : compactOnto after (.string s) =
      '"' :: (s.toList.flatMap escapeChar ++ '"' :: after) := by
    change stringChars s ++ after = _
    rw [stringChars, List.cons_append, List.append_assoc]
    rfl
  refine of_step (fun after => ?_) (fun fuel after _ _ => ?_) (fun _ => rfl)
  · refine ⟨'"', _, hchars after, by decide, by decide, ?_⟩
    rw [List.length_append, List.length_cons]
    omega
  · rw [hchars]
    change (readString (s.toList.flatMap escapeChar ++ '"' :: after)).map _ = _
    rw [readString_escaped]
    rfl

/-- An integer is read back. -/
theorem integer {n : Int} (low : -2 ^ 63 ≤ n) (high : n < Machine.sizeLimit) :
    Drafts (.number (.ofInt n)) (.integer n) := by
  have hchars (after : List Char) :
      compactOnto after (.integer n) = (Text.ofInt n).toList ++ after := rfl
  refine of_step (fun after => ?_) (fun fuel after hafter _ => ?_) (fun _ => ?_)
  · obtain ⟨c, rest, hcons, hc⟩ := Text.ofInt_eq_cons n
    rw [hchars, hcons]
    have hlength : after.length ≤ (rest ++ after).length := by
      rw [List.length_append]
      omega
    exact ⟨c, rest ++ after, rfl, isSpace_of_leadsInt hc, hc.ne ']' (by decide), hlength⟩
  · rw [hchars, readValue_ofInt n fuel hafter]
  · change (NumberText.ofInt n).value? = _
    rw [NumberText.value?_ofInt, if_pos ⟨low, high⟩]
    rfl

end Drafts

/-- Documents are what the compact texts of values hold, one for each. -/
structure DraftAll (drafts : List JsonDraft) (items : List Json) : Prop where
  /-- The texts are not taken for white space or for the end of the array. -/
  first : ∀ after, Begins (itemsOnto (']' :: after) items) after
  /-- The texts are read up to the closing bracket, with two steps for each character at most. -/
  text : ∀ fuel after, 2 * (itemsOnto (']' :: after) items).length ≤ fuel →
    readItems fuel (itemsOnto (']' :: after) items) = some (drafts, after)
  /-- The documents give the values when there is room for the brackets of each. -/
  value : ∀ room, values? room drafts = if itemLevels items ≤ room then some items else none

/-- One value more needs the room that it needs and the room that the others need. -/
theorem Drafts.values?_cons {draft : JsonDraft} {j : Json} (h : Drafts draft j) {room : Nat}
    {drafts : List JsonDraft} {rest : List Json}
    (hrest : values? room drafts = if itemLevels rest ≤ room then some rest else none) :
    values? room (draft :: drafts) =
      if itemLevels (j :: rest) ≤ room then some (j :: rest) else none := by
  rw [values?, h.value, hrest, itemLevels]
  by_cases hfirst : j.levels ≤ room
  · by_cases hmore : itemLevels rest ≤ room
    · rw [if_pos hfirst, if_pos hmore, if_pos (Nat.max_le.mpr ⟨hfirst, hmore⟩)]
      rfl
    · rw [if_pos hfirst, if_neg hmore, if_neg fun hboth => hmore (Nat.max_le.mp hboth).2]
      rfl
  · rw [if_neg hfirst, if_neg fun hboth => hfirst (Nat.max_le.mp hboth).1]
    rfl

/-- Values are read in a row when each of them is. -/
theorem exists_draftAll {items : List Json} (hne : items ≠ [])
    (h : ∀ item ∈ items, ∃ draft, Drafts draft item) : ∃ drafts, DraftAll drafts items := by
  induction items with
  | nil => exact absurd rfl hne
  | cons item rest ih =>
    obtain ⟨⟨draft, hdraft⟩, hrest⟩ := List.forall_mem_cons.mp h
    cases rest with
    | nil =>
      refine ⟨[draft], fun after => (hdraft.first (']' :: after)).mono (Nat.le_succ _),
        fun fuel after hfuel => ?_, fun room => hdraft.values?_cons rfl⟩
      have hlength := (hdraft.first (']' :: after)).length_lt
      rw [itemsOnto] at hfuel ⊢
      cases fuel with
      | zero => omega
      | succ fuel =>
        rw [readItems, hdraft.text fuel _ (closed_cons (Or.inr rfl) after) hfuel]
        rfl
    | cons next rest =>
      obtain ⟨drafts, hdrafts⟩ := ih (List.cons_ne_nil _ _) hrest
      have hfirst (after : List Char) :=
        hdraft.first (',' :: itemsOnto (']' :: after) (next :: rest))
      refine ⟨draft :: drafts, fun after => (hfirst after).mono ?_, fun fuel after hfuel => ?_,
        fun room => hdraft.values?_cons (hdrafts.value room)⟩
      · exact Nat.le_succ_of_le (Nat.le_of_lt (hdrafts.first after).length_lt)
      · have hlength := (hfirst after).length_lt
        rw [itemsOnto] at hfuel ⊢
        rw [List.length_cons] at hlength
        cases fuel with
        | zero => omega
        | succ fuel =>
          -- The value and its comma are two characters at the least, for one step of fuel.
          have hmore := hdrafts.text fuel after (by omega)
          rw [readItems, hdraft.text fuel _ (closed_cons (Or.inl rfl) _) hfuel]
          change (readItems fuel (itemsOnto (']' :: after) (next :: rest)) >>= _) = _
          rw [hmore]
          rfl

/-- Behind an opening bracket there are items, unless the closing one follows. -/
theorem readValue_array {c : Char} (hspace : isSpace c = false) (hbracket : c ≠ ']') (fuel : Nat)
    (rest : List Char) : readValue (fuel + 1) ('[' :: c :: rest) =
      (readItems fuel (c :: rest)).map fun read => (.array read.1, read.2) := by
  rw [readValue, skipSpace_cons (by decide)]
  split
  case h_3 hopening =>
    obtain rfl := (List.cons.inj hopening).2
    rw [skipSpace_cons hspace]
    split
    · rename_i hclosing
      exact absurd (List.cons.inj hclosing).1 hbracket
    · rfl
  case h_8 hopening _ _ _ _ => exact absurd rfl (hopening (c :: rest))
  all_goals
    rename_i hother
    cases hother

/-- An array is read back when its items are. -/
theorem exists_drafts_array {items : List Json}
    (h : ∀ item ∈ items, ∃ draft, Drafts draft item) : ∃ draft, Drafts draft (.array items) := by
  cases items with
  | nil =>
    refine ⟨.array [], .of_step (fun after => ?_) (fun fuel after _ _ => rfl) (fun room => ?_)⟩
    · exact ⟨'[', ']' :: after, rfl, by decide, by decide, Nat.le_succ _⟩
    · cases room <;> rfl
  | cons item rest =>
    obtain ⟨drafts, hdrafts⟩ := exists_draftAll (List.cons_ne_nil item rest) h
    refine ⟨.array drafts, .of_step (fun after => ?_) (fun fuel after _ hfuel => ?_)
      (fun room => ?_)⟩
    · obtain ⟨c, chars, hchars, -, -, hlength⟩ := hdrafts.first after
      exact ⟨'[', c :: chars, congrArg _ hchars, by decide, by decide, Nat.le_succ_of_le hlength⟩
    · obtain ⟨c, chars, hchars, hspace, hbracket, -⟩ := hdrafts.first after
      have hitems := hdrafts.text fuel after (by
        rw [compactOnto, List.length_cons] at hfuel
        omega)
      rw [hchars] at hitems
      rw [compactOnto, hchars, readValue_array hspace hbracket, hitems]
      rfl
    · cases room with
      | zero => rw [levels, if_neg (Nat.not_succ_le_zero _), value?]
      | succ room =>
        rw [value?, hdrafts.value room, levels]
        by_cases hroom : itemLevels (item :: rest) ≤ room
        · rw [if_pos hroom, if_pos (Nat.succ_le_succ hroom)]
          rfl
        · rw [if_neg hroom, if_neg fun hmore => hroom (Nat.le_of_succ_le_succ hmore)]
          rfl

/-- A plain value is read back from its compact text. -/
theorem Plain.exists_drafts {j : Json} (h : Plain j) : ∃ draft, Drafts draft j := by
  induction h with
  | null => exact ⟨_, .null⟩
  | bool b => exact ⟨_, .bool b⟩
  | integer low high => exact ⟨_, .integer low high⟩
  | string s => exact ⟨_, .string s⟩
  | array members ih => exact exists_drafts_array ih

/-- The compact text of a plain value is read as that value, unless its brackets are nested too
deep. -/
theorem Plain.ofText_compact {j : Json} (h : Plain j) :
    ofText j.compact = if j.levels ≤ maxDepth then some j else none := by
  obtain ⟨draft, hdraft⟩ := h.exists_drafts
  have hread := hdraft.text (2 * (compactOnto [] j).length + 2) [] closed_nil (by omega)
  rw [ofText, JsonDraft.ofText, compact, String.toList_ofList, ofChars, hread]
  exact hdraft.value maxDepth

end Json

end ContractToolkit
