import ContractToolkit.Interface.Log
import ContractToolkit.Proofs.Text.Positional
import ContractToolkit.Settings.Check

/-!
# Blocks in text

A block is named by its place in the chain or by its number, in decimal digits or
in hexadecimal ones after `0x`. The check of settings and the reader of blocks are
two tests of such texts. Both take the names and nothing else, so a block that
passes the check can be read, and two numbers are the same block exactly when they
are the same.
-/

namespace ContractToolkit

open Text

namespace Block

/-- The number of a block as it is written: in decimal digits, or in hexadecimal ones after `0x`, at
least one, with or without a plus sign in front of the digits. -/
inductive Numeral : List Char → Nat → Prop
  | decimal {s : List Char} {n : Nat} (value : WritesSigned 10 s n) : Numeral s n
  | hexadecimal {s : List Char} {n : Nat} (value : WritesSigned 16 s n) :
      Numeral ('0' :: 'x' :: s) n

/-- A text names a block: by its place in the chain, or by a number that is a size. -/
inductive Names : String → Block → Prop
  | place {b : Block} (named : ∀ n, b ≠ .number n) : Names b.text b
  | number {text : String} {n : Nat} (written : Numeral text.toList n)
      (small : n < Machine.sizeLimit) : Names text (.number n)

variable {s : List Char} {text : String} {b : Block}

/-- A decimal number begins with a digit or with a plus sign. -/
theorem eq_cons_of_writesSigned {n : Nat} (h : WritesSigned 10 s n) :
    ∃ c rest, s = c :: rest ∧ (c = '+' ∨ c.isDigit = true) := by
  cases h with
  | plain some value =>
    cases value with
    | none => exact absurd rfl some
    | digit first small _ => exact ⟨_, _, rfl, Or.inr (hexDigit?_small.mp ⟨first, small⟩).1⟩
  | plus _ _ => exact ⟨_, _, rfl, Or.inl rfl⟩

/-- A number begins with a digit or with a plus sign, in either form. -/
theorem Numeral.eq_cons {n : Nat} (h : Numeral s n) :
    ∃ c rest, s = c :: rest ∧ (c = '+' ∨ c.isDigit = true) := by
  cases h with
  | decimal value => exact eq_cons_of_writesSigned value
  | hexadecimal _ => exact ⟨_, _, rfl, Or.inr rfl⟩

/-- The mark of hexadecimal digits is no decimal number. -/
theorem not_decimal_mark {n : Nat} {rest : List Char} :
    ¬ WritesSigned 10 ('0' :: 'x' :: rest) n :=
  fun h => not_writes_mark (writesSigned_iff.mp h).2

/-- A text is one number only. -/
theorem Numeral.unique {m n : Nat} (hm : Numeral s m) (hn : Numeral s n) : m = n := by
  cases hm with
  | decimal value =>
    cases hn with
    | decimal value' => exact value.unique value'
    | hexadecimal _ => exact absurd value not_decimal_mark
  | hexadecimal value =>
    cases hn with
    | decimal value' => exact absurd value' not_decimal_mark
    | hexadecimal value' => exact value.unique value'

/-- Behind the mark of hexadecimal digits there is a number exactly when it is a hexadecimal one. -/
theorem numeral_marked {n : Nat} {rest : List Char} :
    Numeral ('0' :: 'x' :: rest) n ↔ WritesSigned 16 rest n := by
  constructor
  · intro h
    cases h with
    | decimal value => exact absurd value not_decimal_mark
    | hexadecimal value => exact value
  · exact .hexadecimal

/-- Without that mark a number is a decimal one. -/
theorem numeral_unmarked {n : Nat} (hmark : ∀ rest, s ≠ '0' :: 'x' :: rest) :
    Numeral s n ↔ WritesSigned 10 s n := by
  constructor
  · intro h
    cases h with
    | decimal value => exact value
    | hexadecimal _ => exact absurd rfl (hmark _)
  · exact .decimal

/-- The places in the chain are named by their texts. -/
theorem ofTag?_eq_some : ofTag? text = some b ↔ (∀ n, b ≠ .number n) ∧ text = b.text := by
  constructor
  · intro h
    rw [ofTag?] at h
    split at h
    · exact Option.some.inj h ▸ ⟨nofun, ‹_›⟩
    split at h
    · exact Option.some.inj h ▸ ⟨nofun, ‹_›⟩
    split at h
    · exact Option.some.inj h ▸ ⟨nofun, ‹_›⟩
    split at h
    · exact Option.some.inj h ▸ ⟨nofun, ‹_›⟩
    split at h
    · exact Option.some.inj h ▸ ⟨nofun, ‹_›⟩
    · cases h
  · rintro ⟨hnamed, rfl⟩
    cases b with
    | number n => exact absurd rfl (hnamed n)
    | _ => decide

/-- The text of a place in the chain is no number. -/
theorem not_numeral_text {n : Nat} (named : ∀ n, b ≠ .number n) : ¬ Numeral b.text.toList n := by
  intro h
  obtain ⟨c, rest, hcons, hc⟩ := h.eq_cons
  have hfirst : ∀ d ∈ b.text.toList.head?, ¬ (d = '+' ∨ d.isDigit = true) := by
    cases b with
    | number n => exact absurd rfl (named n)
    | _ => simp [text]
  exact hfirst c (by rw [hcons]; rfl) hc

/-- The reader takes a number that is a size for the block of that number, and nothing else. -/
theorem number_ofText? {n : Nat} (hplace : ofTag? text = none) :
    ofText? text = some (.number n) ↔ Numeral text.toList n ∧ n < Machine.sizeLimit := by
  rw [ofText?, hplace]
  dsimp only
  split
  · rename_i rest hmark
    rw [hmark, numeral_marked, ← hexSize?_eq_some, Option.map_eq_some_iff]
    simp
  · rename_i hmark
    rw [numeral_unmarked hmark, ← size?_eq_some_iff_writesSigned, Option.map_eq_some_iff]
    simp

/-- A text that names no place is read for a number, if it is read at all. -/
theorem number_of_ofText? (hplace : ofTag? text = none) (h : ofText? text = some b) :
    ∃ n, b = .number n := by
  rw [ofText?, hplace] at h
  dsimp only at h
  split at h
  all_goals
    obtain ⟨n, -, hn⟩ := Option.map_eq_some_iff.mp h
    exact ⟨n, hn.symm⟩

/-- The reader takes each name of a block for that block, and no other text for any. -/
theorem ofText?_eq_some : ofText? text = some b ↔ Names text b := by
  cases hplace : ofTag? text with
  | some place =>
    obtain ⟨hnamed, rfl⟩ := ofTag?_eq_some.mp hplace
    rw [ofText?, hplace]
    dsimp only
    rw [Option.some.injEq]
    constructor
    · rintro rfl
      exact .place hnamed
    · intro h
      generalize hother : place.text = other at h
      cases h with
      | place named =>
        have hsame := ofTag?_eq_some.mpr ⟨named, rfl⟩
        rw [← hother, hplace] at hsame
        exact Option.some.inj hsame
      | number written _ => exact absurd (hother ▸ written) (not_numeral_text hnamed)
  | none =>
    by_cases hnumber : ∃ n, b = .number n
    · obtain ⟨n, rfl⟩ := hnumber
      rw [number_ofText? hplace]
      constructor
      · rintro ⟨written, small⟩
        exact .number written small
      · intro h
        cases h with
        | place named => exact absurd rfl (named n)
        | number written small => exact ⟨written, small⟩
    · have named : ∀ n, b ≠ .number n := fun n hn => hnumber ⟨n, hn⟩
      constructor
      · intro h
        obtain ⟨n, hn⟩ := number_of_ofText? hplace h
        exact absurd hn (named n)
      · intro h
        cases h with
        | place _ =>
          rw [ofTag?_eq_some.mpr ⟨named, rfl⟩] at hplace
          cases hplace
        | number _ _ => exact absurd ⟨_, rfl⟩ hnumber

/-- A number is read for the block of that number, as far as it is a size. -/
theorem Numeral.ofText?_eq_some {n : Nat} (h : Numeral text.toList n) :
    ofText? text = some b ↔ b = .number n ∧ n < Machine.sizeLimit := by
  rw [Block.ofText?_eq_some]
  constructor
  · intro hnames
    cases hnames with
    | place named => exact absurd h (not_numeral_text named)
    | number written small =>
      obtain rfl := written.unique h
      exact ⟨rfl, small⟩
  · rintro ⟨rfl, small⟩
    exact .number h small

/-- Zeros in front of the digits of a number, and a plus sign in front of these, leave the number as
it is. -/
theorem numeral_padded {sign digits : List Char} {n : Nat} (hsign : sign = [] ∨ sign = ['+'])
    (hsome : digits ≠ []) (zeros : Nat) :
    (Writes 10 digits n → Numeral (sign ++ (.replicate zeros '0' ++ digits)) n) ∧
      (Writes 16 digits n →
        Numeral ('0' :: 'x' :: (sign ++ (.replicate zeros '0' ++ digits))) n) := by
  have hpadded {base : Nat} (hbase : 0 < base) (h : Writes base digits n) :
      WritesSigned base (sign ++ (.replicate zeros '0' ++ digits)) n := by
    have hzeros := (writes_zeros hbase zeros).append h
    rw [Nat.zero_mul, Nat.zero_add] at hzeros
    have hsome' : List.replicate zeros '0' ++ digits ≠ [] :=
      List.append_ne_nil_of_right_ne_nil _ hsome
    cases hsign with
    | inl hnone => exact hnone ▸ .plain hsome' hzeros
    | inr hplus => exact hplus ▸ .plus hsome' hzeros
  exact ⟨fun h => .decimal (hpadded (by decide) h), fun h => .hexadecimal (hpadded (by decide) h)⟩

end Block

namespace Settings

open Block

/-- The check lists the places that the reader knows. -/
theorem contains_blockTags (text : String) :
    blockTags.contains text = (ofTag? text).isSome := by
  rw [Bool.eq_iff_iff, Option.isSome_iff_exists, List.contains_iff_mem]
  constructor
  · intro h
    simp only [blockTags, List.mem_cons, List.not_mem_nil, or_false] at h
    rcases h with rfl | rfl | rfl | rfl | rfl
    all_goals exact ⟨_, rfl⟩
  · rintro ⟨b, hb⟩
    obtain ⟨named, rfl⟩ := ofTag?_eq_some.mp hb
    cases b with
    | number n => exact absurd rfl (named n)
    | _ => decide

/-- The check takes what the reader takes. -/
theorem isBlockTag_eq (text : String) : isBlockTag text = (ofText? text).isSome := by
  rw [isBlockTag, contains_blockTags, ofText?]
  cases ofTag? text with
  | some b => rfl
  | none =>
    dsimp only
    split
    · -- A text behind the mark of hexadecimal digits is tried as a decimal number too.
      rename_i rest hmark
      have hdecimal : size? ('0' :: 'x' :: rest) = none := by
        rw [Option.eq_none_iff_forall_ne_some]
        intro n hn
        exact not_decimal_mark (size?_eq_some_iff_writesSigned.mp hn).1
      simp [hdecimal, hmark]
    · simp

end Settings

namespace Block

/-- The check of settings takes exactly the texts that can be read for a block, which are the names
of blocks. Of a number, in decimal digits or in hexadecimal ones, both take what is below `2 ^ 64`,
and it is read for the block of that number; zeros in front of the digits and a plus sign in front of
these are part of a number. Both refuse a mark and a sign without digits. Two numbers that are taken
are the same block exactly when they are the same. -/
theorem block_texts_agree :
    (∀ text, Settings.isBlockTag text = true ↔ ∃ b, ofText? text = some b) ∧
    (∀ text b, ofText? text = some b ↔ Names text b) ∧
    (∀ text n, Numeral text.toList n →
      (Settings.isBlockTag text = true ↔ n < 2 ^ 64) ∧
        ∀ b, ofText? text = some b ↔ b = .number n ∧ n < 2 ^ 64) ∧
    (∀ sign digits zeros n, (sign = [] ∨ sign = ['+']) → digits ≠ [] →
      (Writes 10 digits n → Numeral (sign ++ (.replicate zeros '0' ++ digits)) n) ∧
        (Writes 16 digits n →
          Numeral ('0' :: 'x' :: (sign ++ (.replicate zeros '0' ++ digits))) n)) ∧
    (∀ text ∈ ["", "+", "0x", "0x+"],
      Settings.isBlockTag text = false ∧ ofText? text = none) ∧
    (∀ text other m n, Numeral text.toList m → Numeral other.toList n →
      Settings.isBlockTag text = true → Settings.isBlockTag other = true →
        (ofText? text = ofText? other ↔ m = n)) := by
  have htaken (text : String) : Settings.isBlockTag text = true ↔ ∃ b, ofText? text = some b := by
    rw [Settings.isBlockTag_eq, Option.isSome_iff_exists]
  have hsmall {text : String} {n : Nat} (h : Numeral text.toList n) :
      Settings.isBlockTag text = true ↔ n < 2 ^ 64 := by
    rw [htaken]
    constructor
    · rintro ⟨b, hb⟩
      exact (h.ofText?_eq_some.mp hb).2
    · intro hn
      exact ⟨_, h.ofText?_eq_some.mpr ⟨rfl, hn⟩⟩
  refine ⟨htaken, fun text b => ofText?_eq_some, fun text n h => ⟨hsmall h, fun b => ?_⟩,
    fun sign digits zeros n hsign hsome => numeral_padded hsign hsome zeros, by decide, ?_⟩
  · exact h.ofText?_eq_some
  · intro text other m n hm hn htext hother
    rw [hm.ofText?_eq_some.mpr ⟨rfl, (hsmall hm).mp htext⟩,
      hn.ofText?_eq_some.mpr ⟨rfl, (hsmall hn).mp hother⟩, Option.some.injEq, number.injEq]

/-- Eighteen with a sign and zeros in front, in decimal digits and in hexadecimal ones. -/
theorem block_texts_agree_eighteen :
    Numeral "+0018".toList 18 ∧ Numeral "0x+12".toList 18 ∧
      ofText? "+0018" = ofText? "0x+12" ∧ ofText? "+0018" = some (.number 18) := by
  obtain ⟨-, -, hnumber, hpadded, -, hsame⟩ := block_texts_agree
  have hdecimal : Numeral "+0018".toList 18 :=
    (hpadded ['+'] ['1', '8'] 2 18 (Or.inr rfl) (by decide)).1 (writes_decimal 18)
  have hhexadecimal : Numeral "0x+12".toList 18 :=
    (hpadded ['+'] ['1', '2'] 0 18 (Or.inr rfl) (by decide)).2 (hexValue?_eq_some.mp rfl)
  exact ⟨hdecimal, hhexadecimal,
    (hsame _ _ 18 18 hdecimal hhexadecimal (by decide) (by decide)).mpr rfl,
    ((hnumber _ 18 hdecimal).2 _).mpr ⟨rfl, by decide⟩⟩

end Block

end ContractToolkit
