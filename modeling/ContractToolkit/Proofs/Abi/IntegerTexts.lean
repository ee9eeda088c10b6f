import ContractToolkit.Abi.Value.OfJson
import ContractToolkit.Proofs.Outcome
import ContractToolkit.Proofs.Text.Positional
import ContractToolkit.Proofs.Text.Words
import Mathlib.Algebra.Group.Int.Defs

/-!
# Integers from text

An integer is written by decimal digits, or by hexadecimal ones after `0x`, and a
negative one has a minus sign in front. The reader makes more of texts than that:
no digits at all are zero, a second `0x` is passed over, and so are blanks behind
the sign. It also makes less of them: a negative zero is none, and there are at
most 64 hexadecimal digits, whether they are needed or not. Every other text is
read as the integer that it writes, if that is in range, and as nothing else.
-/

namespace ContractToolkit.Abi

open Text

/-! ### What texts stand for -/

/-- A number as it is written: decimal digits, or hexadecimal digits after `0x`, at least one. -/
inductive Numeral : List Char → Nat → Prop
  | decimal {digits : List Char} {n : Nat} (some : digits ≠ []) (value : Writes 10 digits n) :
      Numeral digits n
  | hexadecimal {digits : List Char} {n : Nat} (some : digits ≠ []) (value : Writes 16 digits n) :
      Numeral ('0' :: 'x' :: digits) n

/-- An integer as it is written: a number, with a minus sign in front of a negative one. -/
inductive SignedNumeral : List Char → Int → Prop
  | plain {s : List Char} {n : Nat} (number : Numeral s n) : SignedNumeral s n
  | minus {s : List Char} {n : Nat} (number : Numeral s n) : SignedNumeral ('-' :: s) (-n)

/-- The number that a text is read as. -/
inductive ReadAs : List Char → Nat → Prop
  | nothing : ReadAs [] 0
  | decimal {digits : List Char} {n : Nat} (some : digits ≠ []) (value : Writes 10 digits n) :
      ReadAs digits n
  | hexadecimal {digits : List Char} {n : Nat} (some : digits ≠ []) (short : digits.length ≤ 64)
      (value : Writes 16 digits n) : ReadAs ('0' :: 'x' :: digits) n
  | marked {digits : List Char} {n : Nat} (short : digits.length ≤ 64)
      (value : Writes 16 digits n) : ReadAs ('0' :: 'x' :: '0' :: 'x' :: digits) n

/-- The integer that a text is read as: white space behind the sign does not matter, and there is
no negative zero. -/
inductive SignedReadAs : List Char → Int → Prop
  | plain {s : List Char} {n : Nat} (number : ReadAs s n) : SignedReadAs s n
  | minus {s : List Char} {n : Nat} (number : ReadAs (trim s) n) (positive : 0 < n) :
      SignedReadAs ('-' :: s) (-n)

/-- The texts that are not read as the numbers that they write. -/
inductive Strays : List Char → Prop
  /-- Nothing is read as zero. -/
  | nothing : Strays []
  /-- A second mark is passed over. -/
  | marked {digits : List Char} {n : Nat} (value : Writes 16 digits n) :
      Strays ('0' :: 'x' :: '0' :: 'x' :: digits)
  /-- Too many digits are refused, although the number is in range. -/
  | long {digits : List Char} {n : Nat} (many : 64 < digits.length) (value : Writes 16 digits n)
      (range : n < 2 ^ 256) : Strays ('0' :: 'x' :: digits)

/-- The texts that are not read as the integers that they write. -/
inductive SignedStrays : List Char → Prop
  | plain {s : List Char} (number : Strays s) : SignedStrays s
  | minus {s : List Char} (some : s ≠ []) (number : Strays s) : SignedStrays ('-' :: s)
  /-- White space behind the sign is passed over. -/
  | gap {c : Char} {s : List Char} (blank : isBlank c = true) : SignedStrays ('-' :: c :: s)
  /-- A negative zero is refused. -/
  | zero {s : List Char} (number : Numeral s 0) : SignedStrays ('-' :: s)

/-- A text is read by an unsigned type of a width as a form of texts says, trimmed, and only so. -/
def ReadsUnsigned (bits : Nat) (s : String) (Form : List Char → Nat → Prop) : Prop :=
  ∀ v, Value.ofJson (.uint bits) (.string s) = .ok v ↔
    ∃ n w, Form (trim s.toList) n ∧ n < 2 ^ 256 ∧ w.toNat = n ∧ v = .uint w bits

/-- A text is read by a signed type of a width as a form of texts says, trimmed, and only so. -/
def ReadsSigned (bits : Nat) (s : String) (Form : List Char → Int → Prop) : Prop :=
  ∀ v, Value.ofJson (.int bits) (.string s) = .ok v ↔
    ∃ i w, Form (trim s.toList) i ∧ -(2 : Int) ^ 255 ≤ i ∧ i < (2 : Int) ^ 255 ∧ w.toInt = i ∧
      v = .int w bits

/-! ### Unsigned integers -/

namespace Value

variable {s : List Char} {w magnitude : Word}

/-- Every number of the range is that of a word. -/
theorem exists_word {n : Nat} (h : n < 2 ^ 256) : ∃ w : Word, w.toNat = n :=
  ⟨BitVec.ofNat 256 n, by rw [BitVec.toNat_ofNat, Nat.mod_eq_of_lt h]⟩

/-- A word stands for a number of its range only. -/
theorem ofNat_eq_iff {n : Nat} (h : n < 2 ^ 256) : BitVec.ofNat 256 n = w ↔ n = w.toNat := by
  rw [← BitVec.toNat_inj, BitVec.toNat_ofNat]
  omega

/-- The words of decimal digits. -/
theorem decimalWord?_eq_some : decimalWord? s = some w ↔ Writes 10 s w.toNat := by
  have hw : w.toNat < 2 ^ 256 := w.isLt
  rw [decimalWord?, writes_ten_iff]
  constructor
  · intro h
    split at h
    · rename_i hread
      exact ⟨hread.1, (ofNat_eq_iff hread.2).mp (Option.some.inj h)⟩
    · cases h
  · rintro ⟨hdigits, hvalue⟩
    rw [if_pos ⟨hdigits, hvalue ▸ hw⟩, hvalue, BitVec.ofNat_toNat, BitVec.setWidth_eq]

/-- The words of hexadecimal digits. -/
theorem hexWord?_eq_some : hexWord? s = some w ↔
    (Hex.withoutMark s).length ≤ 64 ∧ Writes 16 (Hex.withoutMark s) w.toNat := by
  rw [hexWord?]
  constructor
  · intro h
    split at h
    · rename_i hshort
      obtain ⟨n, hn, hword⟩ := Option.map_eq_some_iff.mp h
      have hvalue := hexValue?_eq_some.mp hn
      have hrange : n < 2 ^ 256 :=
        Nat.lt_of_lt_of_le hvalue.lt (Nat.pow_le_pow_right (n := 16) (by decide) hshort)
      exact ⟨hshort, (ofNat_eq_iff hrange).mp hword ▸ hvalue⟩
    · cases h
  · rintro ⟨hshort, hvalue⟩
    rw [if_pos hshort, hexValue?_eq_some.mpr hvalue, Option.map_some, BitVec.ofNat_toNat,
      BitVec.setWidth_eq]

end Value

/-- Behind its mark a text is read as hexadecimal digits, after one more mark if there is one. -/
theorem readAs_marked {rest : List Char} {n : Nat} : ReadAs ('0' :: 'x' :: rest) n ↔
    rest ≠ [] ∧ (Hex.withoutMark rest).length ≤ 64 ∧ Writes 16 (Hex.withoutMark rest) n := by
  constructor
  · intro h
    cases h with
    | decimal _ value => exact absurd value not_writes_mark
    | hexadecimal some short value =>
      have hbare : Hex.withoutMark rest = rest := by
        rw [Hex.withoutMark.eq_def]
        split
        · exact absurd value not_writes_mark
        · rfl
      rw [hbare]
      exact ⟨some, short, value⟩
    | marked short value => exact ⟨List.cons_ne_nil _ _, short, value⟩
  · rintro ⟨hsome, hread⟩
    rw [Hex.withoutMark.eq_def] at hread
    split at hread
    · exact .marked hread.1 hread.2
    · exact .hexadecimal hsome hread.1 hread.2

/-- Without a mark a text is read as decimal digits, even if there are none. -/
theorem readAs_unmarked {s : List Char} {n : Nat} (hmark : ∀ rest, s ≠ '0' :: 'x' :: rest) :
    ReadAs s n ↔ Writes 10 s n := by
  constructor
  · intro h
    cases h with
    | nothing => exact .none
    | decimal _ value => exact value
    | hexadecimal _ _ _ => exact absurd rfl (hmark _)
    | marked _ _ => exact absurd rfl (hmark _)
  · intro h
    cases h with
    | none => exact .nothing
    | digit first small others => exact .decimal (List.cons_ne_nil _ _) (.digit first small others)

/-- The digits of a number are read as that number. -/
theorem ReadAs.of_decimal (n : Nat) : ReadAs (Text.decimal n) n :=
  .decimal (isDecimal_iff.mp (isDecimal_decimal n)).1 (writes_decimal n)

/-- No text that begins with a minus sign is read as a number. -/
theorem not_readAs_minus {rest : List Char} {n : Nat} : ¬ ReadAs ('-' :: rest) n := by
  intro h
  cases h with
  | decimal _ value =>
    cases value with
    | digit first _ _ => cases first

namespace Value

/-- The word of a text without white space at its ends. -/
def numberWord? : List Char → Option Word
  | ['0', 'x'] => none
  | '0' :: 'x' :: digits => hexWord? digits
  | digits => decimalWord? digits

/-- A word of a text is the number that the text is read as. -/
theorem numberWord?_eq_some : numberWord? s = some w ↔ ReadAs s w.toNat := by
  rw [numberWord?.eq_def]
  split
  · rw [readAs_marked]
    exact ⟨nofun, fun h => absurd rfl h.1⟩
  · rename_i digits hsome
    rw [hexWord?_eq_some, readAs_marked]
    exact ⟨fun h => ⟨hsome, h⟩, fun h => h.2⟩
  · rename_i hsingle hmark
    rw [decimalWord?_eq_some, readAs_unmarked]
    intro rest hs
    exact hmark rest hs

/-- A text is read as an unsigned integer without the white space at its ends. -/
theorem unsignedOfChars_eq_ok : unsignedOfChars s = .ok w ↔ ReadAs (trim s) w.toNat := by
  rw [unsignedOfChars, ← numberWord?_eq_some]
  split
  · rename_i word hsome
    have hword : numberWord? (trim s) = some word := hsome
    rw [hword, Except.ok.injEq, Option.some.injEq]
  · rename_i hnone
    have hword : numberWord? (trim s) = none := hnone
    rw [hword]
    simp

/-! ### Signed integers -/

/-- A word and its signed number. -/
theorem toInt_cases (w : Word) : (w.msb = false ∧ w.toInt = w.toNat ∧ w.toNat < 2 ^ 255) ∨
    (w.msb = true ∧ w.toInt = w.toNat - 2 ^ 256 ∧ 2 ^ 255 ≤ w.toNat) := by
  have hmsb : w.msb = decide (2 ^ 255 ≤ w.toNat) := BitVec.msb_eq_decide w
  have hint := BitVec.toInt_eq_msb_cond w
  rw [hint, hmsb]
  by_cases hhigh : 2 ^ 255 ≤ w.toNat
  · rw [decide_eq_true hhigh, if_pos rfl]
    exact .inr ⟨rfl, rfl, hhigh⟩
  · rw [decide_eq_false hhigh, if_neg Bool.false_ne_true]
    exact .inl ⟨rfl, rfl, Nat.not_le.mp hhigh⟩

/-- A magnitude without a sign is a word when it is below half of the range. -/
theorem signedWord?_plain : signedWord? false magnitude = some w ↔ w.toInt = magnitude.toNat := by
  have hdef : signedWord? false magnitude =
      if magnitude.msb = false then some magnitude else none := rfl
  have hw : w.toNat < 2 ^ 256 := w.isLt
  rw [hdef]
  constructor
  · intro h
    split at h
    · rename_i hsign
      obtain rfl := Option.some.inj h
      exact BitVec.toInt_eq_toNat_of_msb hsign
    · cases h
  · intro h
    have hsame : magnitude = w := by
      apply BitVec.eq_of_toNat_eq
      have hcases := toInt_cases w
      omega
    obtain ⟨hsign, -, -⟩ | ⟨-, hint, hhigh⟩ := toInt_cases w
    · rw [hsame, if_pos hsign]
    · omega

/-- A magnitude with a minus sign is a word when it is not zero and at most half of the range. -/
theorem signedWord?_minus : signedWord? true magnitude = some w ↔
    0 < magnitude.toNat ∧ w.toInt = -magnitude.toNat := by
  have hdef : signedWord? true magnitude =
      if (-magnitude).msb = true then some (-magnitude) else none := rfl
  have hw : w.toNat < 2 ^ 256 := w.isLt
  have hmagnitude : magnitude.toNat < 2 ^ 256 := magnitude.isLt
  have hneg : (-magnitude).toNat =
      (2 ^ 256 - magnitude.toNat) % 2 ^ 256 := BitVec.toNat_neg magnitude
  rw [hdef]
  constructor
  · intro h
    split at h
    · rename_i hsign
      obtain rfl := Option.some.inj h
      obtain ⟨hplus, -, -⟩ | ⟨-, hint, hhigh⟩ := toInt_cases (-magnitude)
      · rw [hsign] at hplus
        cases hplus
      · omega
    · cases h
  · rintro ⟨hpositive, hint⟩
    obtain ⟨-, hplus, -⟩ | ⟨hsign, hminus, hhigh⟩ := toInt_cases w
    · omega
    · have hsame : -magnitude = w := by
        apply BitVec.eq_of_toNat_eq
        omega
      rw [hsame, if_pos hsign]

/-- The sign of a text, and what stands behind it. -/
def signParts : List Char → Bool × List Char
  | '-' :: rest => (true, rest)
  | s => (false, s)

/-- A text is read as a signed integer by its parts. -/
theorem signedOfChars_parts : signedOfChars s = .ok w ↔
    ∃ magnitude, ReadAs (trim (signParts (trim s)).2) magnitude.toNat ∧
      signedWord? (signParts (trim s)).1 magnitude = some w := by
  rw [signedOfChars]
  split
  rename_i negative digits hsplit
  have hparts : signParts (trim s) = (negative, digits) := hsplit
  rw [hparts, Outcome.bind_eq_ok]
  refine exists_congr fun magnitude => ?_
  rw [unsignedOfChars_eq_ok]
  cases signedWord? negative magnitude with
  | none => simp
  | some word => rw [Outcome.pure_eq_ok, Option.some.injEq]

/-- A text is read as a signed integer without the white space at its ends. -/
theorem signedOfChars_eq_ok : signedOfChars s = .ok w ↔ SignedReadAs (trim s) w.toInt := by
  have hlow : -(2 : Int) ^ 255 ≤ w.toInt := BitVec.le_toInt w
  have hhigh : w.toInt < (2 : Int) ^ 255 := BitVec.toInt_lt
  have htrim : trim (trim s) = trim s := (trimmed_trim s).trim_eq
  rw [signedOfChars_parts, signParts.eq_def]
  generalize hi : w.toInt = i at hlow hhigh ⊢
  split
  · rename_i rest hminus
    simp only [signedWord?_minus, hi]
    rw [hminus]
    constructor
    · rintro ⟨magnitude, hread, hpositive, rfl⟩
      exact .minus hread hpositive
    · intro h
      cases h with
      | plain number => exact absurd number not_readAs_minus
      | @minus _ n number positive =>
        obtain ⟨magnitude, rfl⟩ := exists_word (n := n) (by omega)
        exact ⟨magnitude, number, positive, rfl⟩
  · rename_i hplus
    simp only [signedWord?_plain, hi, htrim]
    constructor
    · rintro ⟨magnitude, hread, rfl⟩
      exact .plain hread
    · intro h
      generalize trim s = t at hplus h
      cases h with
      | @plain _ n number =>
        obtain ⟨magnitude, rfl⟩ := exists_word (n := n) (by omega)
        exact ⟨magnitude, number, rfl⟩
      | minus _ _ => exact absurd rfl (hplus _)

end Value

/-! ### Where the reader goes its own way -/

/-- A text that does not stray is read as the number that it writes. -/
theorem readAs_iff_numeral {s : List Char} {n : Nat} (h : ¬ Strays s) (hrange : n < 2 ^ 256) :
    ReadAs s n ↔ Numeral s n := by
  constructor
  · intro hread
    cases hread with
    | nothing => exact absurd .nothing h
    | decimal some value => exact .decimal some value
    | hexadecimal some _ value => exact .hexadecimal some value
    | marked _ value => exact absurd (.marked value) h
  · intro hwritten
    cases hwritten with
    | decimal some value => exact .decimal some value
    | @hexadecimal digits _ some value =>
      by_cases hshort : digits.length ≤ 64
      · exact .hexadecimal some hshort value
      · exact absurd (.long (Nat.not_le.mp hshort) value hrange) h

/-- Behind its sign a trimmed text that does not stray is read as the number that it writes, which
is not zero. -/
theorem readAs_behind_minus {rest : List Char} {n : Nat} (hs : Trimmed ('-' :: rest))
    (h : ¬ SignedStrays ('-' :: rest)) (hrange : n < 2 ^ 256) :
    ReadAs (trim rest) n ∧ 0 < n ↔ Numeral rest n := by
  cases rest with
  | nil =>
    constructor
    · rintro ⟨hread, hpositive⟩
      cases hread with
      | nothing => exact absurd hpositive (Nat.lt_irrefl 0)
      | decimal some _ => exact absurd rfl some
    · intro hwritten
      cases hwritten with
      | decimal some _ => exact absurd rfl some
  | cons c rest =>
    have hfirst : isBlank c = false := by
      cases hblank : isBlank c with
      | false => rfl
      | true => exact absurd (.gap hblank) h
    have htrimmed : Trimmed (c :: rest) := by
      refine ⟨fun d hd => ?_, fun d hd => hs.last d ?_⟩
      · cases hd
        exact hfirst
      · rwa [List.getLast?_cons_cons]
    have hsteady : ¬ Strays (c :: rest) := fun hstrays => h (.minus (List.cons_ne_nil _ _) hstrays)
    rw [htrimmed.trim_eq, readAs_iff_numeral hsteady hrange]
    constructor
    · exact fun hnumber => hnumber.1
    · intro hnumber
      refine ⟨hnumber, Nat.pos_of_ne_zero ?_⟩
      rintro rfl
      exact h (.zero hnumber)

/-- A trimmed text that does not stray is read as the integer that it writes. -/
theorem signedReadAs_iff_signedNumeral {s : List Char} {i : Int} (hs : Trimmed s)
    (h : ¬ SignedStrays s) (hlow : -(2 : Int) ^ 255 ≤ i) (hhigh : i < (2 : Int) ^ 255) :
    SignedReadAs s i ↔ SignedNumeral s i := by
  have hplain {n : Nat} (hn : n < 2 ^ 256) : ReadAs s n ↔ Numeral s n :=
    readAs_iff_numeral (fun hstrays => h (.plain hstrays)) hn
  constructor
  · intro hread
    cases hread with
    | plain number => exact .plain ((hplain (by omega)).mp number)
    | minus number positive =>
      exact .minus ((readAs_behind_minus hs h (by omega)).mp ⟨number, positive⟩)
  · intro hwritten
    cases hwritten with
    | plain number => exact .plain ((hplain (by omega)).mpr number)
    | minus number =>
      obtain ⟨number, positive⟩ := (readAs_behind_minus hs h (by omega)).mpr number
      exact .minus number positive

/-- Every text is read by an unsigned type as the number that it is read as, if that is in range. -/
theorem readsUnsigned (bits : Nat) (s : String) : ReadsUnsigned bits s ReadAs := by
  intro v
  rw [Value.ofJson, Outcome.bind_eq_ok]
  simp only [Value.unsignedOfChars_eq_ok, Outcome.pure_eq_ok]
  constructor
  · rintro ⟨w, hread, rfl⟩
    exact ⟨w.toNat, w, hread, w.isLt, rfl, rfl⟩
  · rintro ⟨n, w, hread, -, rfl, rfl⟩
    exact ⟨w, hread, rfl⟩

/-- Every text is read by a signed type as the integer that it is read as, if that is in range. -/
theorem readsSigned (bits : Nat) (s : String) : ReadsSigned bits s SignedReadAs := by
  intro v
  rw [Value.ofJson, Outcome.bind_eq_ok]
  simp only [Value.signedOfChars_eq_ok, Outcome.pure_eq_ok]
  constructor
  · rintro ⟨w, hread, rfl⟩
    exact ⟨w.toInt, w, hread, BitVec.le_toInt w, BitVec.toInt_lt, rfl, rfl⟩
  · rintro ⟨i, w, hread, -, -, rfl, rfl⟩
    exact ⟨w, hread, rfl⟩

/-- Integers from text. Whatever their width, unsigned and signed types read a text, without the
white space at its ends, as one number or integer in range, or not at all. That is the number that
decimal digits, or hexadecimal digits after `0x`, write, with a minus sign in front for signed
types, and it is read exactly when it is in range, unless the text is one of those that stray:
nothing at all, a second mark, more than 64 digits, white space behind the sign, or a negative
zero. -/
theorem ofJson_readsIntegers (bits : Nat) (s : String) :
    ReadsUnsigned bits s ReadAs ∧ ReadsSigned bits s SignedReadAs ∧
      (¬ Strays (trim s.toList) → ReadsUnsigned bits s Numeral) ∧
      (¬ SignedStrays (trim s.toList) → ReadsSigned bits s SignedNumeral) := by
  refine ⟨readsUnsigned bits s, readsSigned bits s, fun hsteady v => ?unsigned,
    fun hsteady v => ?signed⟩
  case unsigned =>
    rw [readsUnsigned bits s v]
    refine exists_congr fun n => exists_congr fun w => ?_
    exact and_congr_left fun hrest => readAs_iff_numeral hsteady hrest.1
  case signed =>
    rw [readsSigned bits s v]
    refine exists_congr fun i => exists_congr fun w => ?_
    exact and_congr_left fun hrest =>
      signedReadAs_iff_signedNumeral (trimmed_trim _) hsteady hrest.1 hrest.2.1

/-- Two texts with white space around them: the sign and the mark of one are read as they are
written, and the other is read by a type whose width its number passes. -/
theorem ofJson_readsIntegers_spaced :
    let negative := " -0x10 "
    let plain := "\t1000"
    (¬ SignedStrays (trim negative.toList) ∧ ¬ Strays (trim plain.toList)) ∧
      Value.ofJson (.int 64) (.string negative) = .ok (.int (-16) 64) ∧
        Value.ofJson (.uint 8) (.string plain) = .ok (.uint 1000 8) := by
  intro negative plain
  have hnegative : trim negative.toList = ['-', '0', 'x', '1', '0'] := by decide +kernel
  have hplain : trim plain.toList = ['1', '0', '0', '0'] := by decide +kernel
  have hsixteen : Writes 16 ['1', '0'] 16 := hexValue?_eq_some.mp (by decide)
  have hthousand : Writes 10 ['1', '0', '0', '0'] 1000 := writes_ten_iff.mpr (by decide)
  have hsigned : ¬ SignedStrays (trim negative.toList) := by
    rw [hnegative]
    intro h
    cases h with
    | plain number => cases number
    | minus _ number =>
      cases number with
      | long many _ _ => exact absurd many (by decide)
    | gap blank => exact absurd blank (by decide)
    | zero number =>
      cases number with
      | decimal _ value => exact not_writes_mark value
      | hexadecimal _ value => exact absurd (hexValue?_eq_some.mpr value) (by decide)
  have hunsigned : ¬ Strays (trim plain.toList) := by
    rw [hplain]
    intro h
    cases h
  refine ⟨⟨hsigned, hunsigned⟩, ?_, ?_⟩
  · refine ((ofJson_readsIntegers 64 negative).2.2.2 hsigned _).mpr ⟨-16, -16, ?_, by decide +kernel⟩
    rw [hnegative]
    exact .minus (.hexadecimal (List.cons_ne_nil _ _) hsixteen)
  · refine ((ofJson_readsIntegers 8 plain).2.2.1 hunsigned _).mpr ⟨1000, 1000, ?_, by decide +kernel⟩
    rw [hplain]
    exact .decimal (List.cons_ne_nil _ _) hthousand

/-- Nothing is read as zero, although nothing is no number as it is written. -/
theorem nothing_read_as_zero :
    (Value.ofJson (.uint 256) (.string "") = .ok (.uint 0 256) ∧
      Value.ofJson (.int 256) (.string "") = .ok (.int 0 256)) ∧
      ¬ ReadsUnsigned 256 "" Numeral ∧ ¬ ReadsSigned 256 "" SignedNumeral := by
  have hunsigned : Value.ofJson (.uint 256) (.string "") = .ok (.uint 0 256) := rfl
  have hsigned : Value.ofJson (.int 256) (.string "") = .ok (.int 0 256) := rfl
  have hnumeral {n : Nat} : ¬ Numeral [] n := by
    intro h
    cases h with
    | decimal some _ => exact some rfl
  refine ⟨⟨hunsigned, hsigned⟩, fun h => ?_, fun h => ?_⟩
  · obtain ⟨n, w, hwritten, -⟩ := (h _).mp hunsigned
    exact hnumeral hwritten
  · obtain ⟨i, w, hwritten, -⟩ := (h _).mp hsigned
    cases hwritten with
    | plain number => exact hnumeral number

end ContractToolkit.Abi
