import ContractToolkit.Json.Reader
import ContractToolkit.Json.Writer
import ContractToolkit.Proofs.Bytes.HexText
import ContractToolkit.Proofs.Text.Digits
import Mathlib.Algebra.Group.Int.Defs
import Mathlib.Data.List.TakeDrop
import Mathlib.Data.Option.Basic
import Mathlib.Tactic.SplitIfs

/-!
# Texts and integers in JSON

What is written between quotes is read back character by character, each behind
the escape that it needs. The digits of an integer are read as a number up to
the first character that is neither a digit nor begins a fraction or an
exponent.
-/

namespace ContractToolkit

open Text

namespace JsonDraft

/-- An escape of one letter stands for its character. -/
theorem stringUnits_letter {letter c : Char} (hletter : letter ≠ 'u')
    (hc : simpleEscape letter = some c) (rest : List Char) :
    stringUnits ('\\' :: letter :: rest) =
      (stringUnits rest).map fun read => (.inl c :: read.1, read.2) := by
  rw [stringUnits.eq_4 letter rest fun _ _ _ _ _ hu _ => hletter hu, hc]
  cases stringUnits rest <;> rfl

/-- A control character is read back from the number in its escape. -/
theorem stringUnits_code {c : Char} (hc : c.toNat < 32) (rest : List Char) :
    stringUnits ('\\' :: 'u' :: '0' :: '0' :: Nat.digitChar (c.toNat / 16) ::
        Nat.digitChar (c.toNat % 16) :: rest) =
      (stringUnits rest).map fun read => (.inl c :: read.1, read.2) := by
  have hhigh : hexDigit? (Nat.digitChar (c.toNat / 16)) = some (c.toNat / 16) :=
    hexDigit?_digitChar (by omega)
  have hlow : hexDigit? (Nat.digitChar (c.toNat % 16)) = some (c.toNat % 16) :=
    hexDigit?_digitChar (by omega)
  have hzero : hexDigit? '0' = some 0 := rfl
  have hcode : fourDigits '0' '0' (Nat.digitChar (c.toNat / 16)) (Nat.digitChar (c.toNat % 16)) =
      some c.toNat := by
    simp only [fourDigits, hexValue?, hexValueFrom?, hhigh, hlow, hzero, Option.bind_some]
    exact congrArg some (by omega)
  have hwhole : (isHighHalf c.toNat || isLowHalf c.toNat) = false := by
    simp only [isHighHalf, isLowHalf, Bool.or_eq_false_iff, Bool.and_eq_false_iff,
      decide_eq_false_iff_not]
    omega
  rw [stringUnits, hcode]
  cases stringUnits rest with
  | none => rfl
  | some read =>
    simp only [bind, Option.bind, hwhole, Char.ofNat_toNat]
    rfl

/-- A character that needs no escape stands for itself. -/
theorem stringUnits_bare {c : Char} (hquote : c ≠ '"') (hmark : c ≠ '\\') (hc : ' ' ≤ c)
    (rest : List Char) :
    stringUnits (c :: rest) = (stringUnits rest).map fun read => (.inl c :: read.1, read.2) := by
  have hguard : guard (' ' ≤ c) = some () := if_pos hc
  rw [stringUnits.eq_5 c rest hquote (fun _ _ _ _ _ h _ => hmark h) (fun _ _ h _ => hmark h),
    hguard]
  cases stringUnits rest <;> rfl

/-- Ways in which a character is written between quotes. -/
theorem escapeChar_cases (c : Char) :
    (∃ letter, letter ≠ 'u' ∧ simpleEscape letter = some c ∧
      Json.escapeChar c = ['\\', letter]) ∨
    (c.toNat < 32 ∧ Json.escapeChar c =
      ['\\', 'u', '0', '0', Nat.digitChar (c.toNat / 16), Nat.digitChar (c.toNat % 16)]) ∨
    (c ≠ '"' ∧ c ≠ '\\' ∧ ' ' ≤ c ∧ Json.escapeChar c = [c]) := by
  by_cases hquote : c = '"'
  · exact .inl ⟨'"', by decide, by rw [hquote]; rfl, by rw [hquote]; rfl⟩
  by_cases hmark : c = '\\'
  · exact .inl ⟨'\\', by decide, by rw [hmark]; rfl, by rw [hmark]; rfl⟩
  rw [Json.escapeChar, if_neg hquote, if_neg hmark]
  split_ifs with hback hfeed hline hreturn htab hcontrol
  · exact .inl ⟨'b', by decide, by rw [hback]; rfl, rfl⟩
  · exact .inl ⟨'f', by decide, by rw [hfeed]; rfl, rfl⟩
  · exact .inl ⟨'n', by decide, by rw [hline]; rfl, rfl⟩
  · exact .inl ⟨'r', by decide, by rw [hreturn]; rfl, rfl⟩
  · exact .inl ⟨'t', by decide, by rw [htab]; rfl, rfl⟩
  · exact .inr (.inl ⟨hcontrol, rfl⟩)
  · exact .inr (.inr ⟨hquote, hmark, Char.not_lt.mp hcontrol, rfl⟩)

/-- A character is read back from its escape. -/
theorem stringUnits_escapeChar (c : Char) (rest : List Char) :
    stringUnits (Json.escapeChar c ++ rest) =
      (stringUnits rest).map fun read => (.inl c :: read.1, read.2) := by
  rcases escapeChar_cases c with ⟨letter, hletter, hc, hescape⟩ | ⟨hc, hescape⟩ |
    ⟨hquote, hmark, hc, hescape⟩
  · rw [hescape]
    exact stringUnits_letter hletter hc rest
  · rw [hescape]
    exact stringUnits_code hc rest
  · rw [hescape]
    exact stringUnits_bare hquote hmark hc rest

/-- The characters of a text are read back from their escapes, up to the closing quote. -/
theorem stringUnits_escaped (cs rest : List Char) :
    stringUnits (cs.flatMap Json.escapeChar ++ '"' :: rest) = some (cs.map .inl, rest) := by
  induction cs with
  | nil => simp [stringUnits]
  | cons c cs ih =>
    rw [List.flatMap_cons, List.append_assoc, stringUnits_escapeChar, ih]
    rfl

/-- Characters without halves of surrogate pairs among them are a text. -/
theorem joinUnits_map (cs : List Char) : joinUnits (cs.map .inl) = some cs := by
  induction cs with
  | nil => simp [joinUnits]
  | cons c cs ih => simp [joinUnits, ih]

/-- A text is read back up to its closing quote. -/
theorem readString_escaped (s : String) (rest : List Char) :
    readString (s.toList.flatMap Json.escapeChar ++ '"' :: rest) = some (some s, rest) := by
  rw [readString, stringUnits_escaped]
  simp [joinUnits_map]

end JsonDraft

namespace Json

/-- A text in which a number cannot go on. -/
def Closed (after : List Char) : Prop := ∀ c ∈ after.head?, c = ',' ∨ c = ']'

/-- A number cannot go on where the text ends. -/
theorem closed_nil : Closed [] := fun c hc => absurd hc (Option.not_mem_none c)

/-- A number cannot go on in front of a comma or a closing bracket. -/
theorem closed_cons {c : Char} (h : c = ',' ∨ c = ']') (rest : List Char) : Closed (c :: rest) :=
  fun _ hd => Option.some.inj hd ▸ h

/-- An integer as it is written. -/
def NumberText.ofInt (n : Int) : NumberText := ⟨decide (n < 0), decimal n.natAbs, none, none⟩

/-- A run of digits ends in front of what is no digit. -/
theorem digitRun_append {digits after : List Char} (hdigits : ∀ c ∈ digits, c.isDigit = true)
    (hafter : ∀ c ∈ after.head?, c.isDigit = false) :
    digitRun (digits ++ after) = (digits, after) := by
  rw [digitRun, List.span_eq_takeWhile_dropWhile, List.takeWhile_append_of_pos hdigits,
    List.dropWhile_append_of_pos hdigits]
  cases after with
  | nil => simp
  | cons c rest =>
    have hc := hafter c rfl
    simp [hc]

/-- The digits of a number have no zero too many in front. -/
theorem isWhole_decimal (n : Nat) : isWhole (decimal n) = true := by
  cases n with
  | zero => rfl
  | succ n =>
    have hfirst := head?_decimal (Nat.succ_pos n)
    cases hread : decimal (n + 1) with
    | nil => exact absurd hread Nat.toDigits_ne_nil
    | cons c rest =>
      rw [hread] at hfirst
      rw [isWhole.eq_def]
      split
      · rename_i hnil
        cases hnil
      · rfl
      · simp_all
      · rfl

/-- No fraction begins there. -/
theorem Closed.readFraction {after : List Char} (h : Closed after) :
    readFraction after = some (none, after) := by
  rw [Json.readFraction.eq_def]
  split
  · exact absurd (h '.' rfl) (by decide)
  · rfl

/-- No exponent begins there. -/
theorem Closed.readExponent {after : List Char} (h : Closed after) :
    readExponent after = some (none, after) := by
  cases after with
  | nil => rfl
  | cons c rest =>
    have hmark : ¬ (c = 'e' ∨ c = 'E') := by
      cases h c rfl with
      | inl h => rw [h]; decide
      | inr h => rw [h]; decide
    simp only [Json.readExponent, if_neg hmark]

/-- No digit stands there. -/
theorem Closed.not_digit {after : List Char} (h : Closed after) :
    ∀ c ∈ after.head?, c.isDigit = false := by
  intro c hc
  cases h c hc with
  | inl h => rw [h]; rfl
  | inr h => rw [h]; rfl

/-- The digits of a number are read up to where it cannot go on. -/
theorem readNumber_ofInt (n : Int) {after : List Char} (h : Closed after) :
    readNumber ((Text.ofInt n).toList ++ after) = some (.ofInt n, after) := by
  have hrun (n : Nat) : digitRun (decimal n ++ after) = (decimal n, after) :=
    digitRun_append (isDecimal_iff.mp (isDecimal_decimal n)).2 h.not_digit
  have hguard (n : Nat) : guard (isWhole (decimal n) = true) = some () :=
    if_pos (isWhole_decimal n)
  have hexponent (write : Option (Bool × List Char) → NumberText) :
      ((readExponent after).bind fun read => some (write read.1, read.2)) =
        some (write none, after) := by
    rw [h.readExponent]
    rfl
  cases n with
  | ofNat n =>
    obtain ⟨c, digits, hdecimal, hc⟩ := decimal_eq_cons n
    have hplain (rest : List Char) : ¬ decimal n ++ after = '-' :: rest := by
      intro hminus
      rw [hdecimal, List.cons_append] at hminus
      rw [(List.cons.inj hminus).1] at hc
      cases hc
    rw [Text.ofInt, Text.ofNat, String.toList_ofList, readNumber.eq_2 _ hplain, hrun]
    change (guard (isWhole _ = true) >>= fun _ => readFraction after >>= _) = _
    rw [hguard, h.readFraction]
    exact hexponent fun exponent => ⟨false, decimal n, none, exponent⟩
  | negSucc n =>
    have hnumber : NumberText.ofInt (.negSucc n) = ⟨true, decimal (n + 1), none, none⟩ := by
      rw [NumberText.ofInt, decide_eq_true (Int.negSucc_lt_zero n)]
      rfl
    rw [Text.ofInt, Text.ofNat, String.toList_append, String.toList_ofList, String.toList_ofList,
      hnumber]
    change readNumber ('-' :: (decimal (n + 1) ++ after)) = _
    rw [readNumber, hrun]
    change (guard (isWhole _ = true) >>= fun _ => readFraction after >>= _) = _
    rw [hguard, h.readFraction]
    exact hexponent fun exponent => ⟨true, decimal (n + 1), none, exponent⟩

/-- An integer has its value as far as 64 bits hold it, and is a double beyond. -/
theorem NumberText.value?_ofInt (n : Int) : (ofInt n).value? =
    if -2 ^ 63 ≤ n ∧ n < Machine.sizeLimit then some (.integer n)
    else (ofInt n).toDouble.map .double := by
  rw [NumberText.value?, ofInt]
  dsimp only
  rw [decimalValue_decimal]
  have hlimit : Machine.sizeLimit = 2 ^ 64 := rfl
  by_cases hsign : n < 0
  · have hmagnitude : -(n.natAbs : Int) = n := by omega
    rw [decide_eq_true hsign, if_pos rfl, hmagnitude]
    refine if_congr ?_ rfl rfl
    change 0 < n.natAbs ∧ n.natAbs ≤ 2 ^ 63 ↔ _
    omega
  · have hmagnitude : (n.natAbs : Int) = n := by omega
    rw [decide_eq_false hsign, if_neg Bool.false_ne_true, hmagnitude]
    refine if_congr ?_ rfl rfl
    omega

end Json

end ContractToolkit
