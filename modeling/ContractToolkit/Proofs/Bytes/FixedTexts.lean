import ContractToolkit.Proofs.Bytes.HexText
import ContractToolkit.Proofs.Outcome
import ContractToolkit.Proofs.Text.Positional

/-!
# Texts of byte strings of a fixed length

The reader for a fixed length passes over blanks between the digits, of which it
wants two for each octet. What it takes is therefore told by the characters that
are no blanks: they are so many hexadecimal digits, and the octets are the number
that these write.
-/

namespace ContractToolkit

open Text

namespace Hex

/-- The characters of a text without the blanks that may stand between digits. -/
def spelled (s : List Char) : List Char := s.filter (!isGap ·)

variable {index : Nat} {s : List Char}

/-- There is no further digit where only blanks follow. -/
theorem nextDigit_eq_none : nextDigit index s = .ok none ↔ spelled s = [] := by
  induction s generalizing index with
  | nil => simp [nextDigit, spelled]
  | cons c rest ih =>
    rw [nextDigit, spelled, List.filter_cons]
    cases hgap : isGap c with
    | true => exact ih
    | false => cases hdigit : hexDigit? c <;> simp

/-- The next digit is the next character that is no blank. -/
theorem spelled_of_nextDigit {d place : Nat} {rest : List Char}
    (h : nextDigit index s = .ok (some (d, place, rest))) :
    ∃ c, hexDigit? c = some d ∧ spelled s = c :: spelled rest := by
  induction s generalizing index with
  | nil => cases h
  | cons c later ih =>
    rw [nextDigit] at h
    cases hgap : isGap c with
    | true =>
      rw [hgap, if_pos rfl] at h
      obtain ⟨digit, hdigit, hspelled⟩ := ih h
      refine ⟨digit, hdigit, ?_⟩
      rw [spelled, List.filter_cons, hgap]
      exact hspelled
    | false =>
      rw [hgap, if_neg Bool.false_ne_true] at h
      cases hdigit : hexDigit? c with
      | none =>
        rw [hdigit] at h
        cases h
      | some first =>
        rw [hdigit] at h
        cases h
        refine ⟨c, hdigit, ?_⟩
        rw [spelled, List.filter_cons, hgap]
        rfl

/-- A digit that comes first among the characters that are no blanks is found. -/
theorem exists_nextDigit (index : Nat) {c : Char} {d : Nat} {others : List Char}
    (hspelled : spelled s = c :: others) (hdigit : hexDigit? c = some d) :
    ∃ place rest, nextDigit index s = .ok (some (d, place, rest)) ∧ spelled rest = others := by
  induction s generalizing index with
  | nil => cases hspelled
  | cons first later ih =>
    rw [spelled, List.filter_cons] at hspelled
    rw [nextDigit]
    cases hgap : isGap first with
    | true =>
      rw [hgap] at hspelled
      exact ih (index + 1) hspelled
    | false =>
      rw [hgap] at hspelled
      obtain ⟨rfl, rfl⟩ := List.cons.inj hspelled
      rw [hdigit]
      exact ⟨index + 1, later, rfl, rfl⟩

/-- Digits of an octet in front of those of others write the octet in front of the others. -/
theorem writes_octet {high low : Nat} {a b : Char} {digits : List Char} {bytes : Bytes}
    (hhigh : hexDigit? a = some high) (hlow : hexDigit? b = some low)
    (hlength : digits.length = 2 * bytes.length) (h : Writes 16 digits bytes.toNat) :
    Writes 16 (a :: b :: digits) (Bytes.toNat (UInt8.ofNat (high * 16 + low) :: bytes)) := by
  have hhigh' := hexDigit?_lt hhigh
  have hlow' := hexDigit?_lt hlow
  have hoctet : (UInt8.ofNat (high * 16 + low)).toNat = high * 16 + low := by
    rw [UInt8.toNat_ofNat', Nat.mod_eq_of_lt (by omega)]
  have hvalue : Bytes.toNat (UInt8.ofNat (high * 16 + low) :: bytes) =
      high * 16 ^ (b :: digits).length + (low * 16 ^ digits.length + bytes.toNat) := by
    have happend := Bytes.toNat_append [UInt8.ofNat (high * 16 + low)] bytes
    rw [List.singleton_append, Bytes.toNat_singleton, hoctet] at happend
    have hbase : 16 ^ (2 * bytes.length) = 256 ^ bytes.length := by rw [Nat.pow_mul]
    rw [happend, List.length_cons, hlength, Nat.pow_succ', hbase, ← Nat.mul_assoc, ← Nat.add_assoc,
      ← Nat.add_mul]
  rw [hvalue]
  exact .digit hhigh hhigh' (.digit hlow hlow' h)

/-- What is read for a byte string of a fixed length has two digits for each octet, and these write
the octets. -/
theorem writes_of_fixedFrom {count : Nat} {bytes : Bytes}
    (h : fixedFrom count index s = .ok bytes) :
    bytes.length = count ∧ (spelled s).length = 2 * count ∧ Writes 16 (spelled s) bytes.toNat := by
  induction count generalizing index s bytes with
  | zero =>
    rw [fixedFrom] at h
    split at h
    · rename_i hend
      cases h
      rw [nextDigit_eq_none.mp hend]
      exact ⟨rfl, rfl, .none⟩
    · cases h
  | succ count ih =>
    rw [fixedFrom] at h
    obtain ⟨first, hfirst, h⟩ := Outcome.bind_eq_ok.mp h
    cases first with
    | none => cases h
    | some first =>
      obtain ⟨high, place, later⟩ := first
      obtain ⟨second, hsecond, h⟩ := Outcome.bind_eq_ok.mp h
      cases second with
      | none => cases h
      | some second =>
        obtain ⟨low, place', rest⟩ := second
        obtain ⟨more, hmore, h⟩ := Outcome.bind_eq_ok.mp h
        cases h
        obtain ⟨a, ha, hlater⟩ := spelled_of_nextDigit hfirst
        obtain ⟨b, hb, hrest⟩ := spelled_of_nextDigit hsecond
        obtain ⟨hcount, hlength, hwrites⟩ := ih hmore
        rw [hlater, hrest, List.length_cons, List.length_cons, List.length_cons, hlength, hcount]
        exact ⟨rfl, by omega, writes_octet ha hb (hcount ▸ hlength) hwrites⟩

/-- Two digits for each octet are read. -/
theorem exists_fixedFrom (index : Nat) {count n : Nat} (hlength : (spelled s).length = 2 * count)
    (h : Writes 16 (spelled s) n) : ∃ bytes, fixedFrom count index s = .ok bytes := by
  induction count generalizing index s n with
  | zero =>
    rw [fixedFrom, nextDigit_eq_none.mpr (List.eq_nil_of_length_eq_zero hlength)]
    exact ⟨[], rfl⟩
  | succ count ih =>
    generalize hspelled : spelled s = digits at h
    cases h with
    | none =>
      rw [hspelled] at hlength
      cases hlength
    | digit first _ others =>
      cases others with
      | none =>
        rw [hspelled, List.length_singleton] at hlength
        omega
      | digit second _ others =>
        obtain ⟨place, later, hfirst, hlater⟩ := exists_nextDigit index hspelled first
        obtain ⟨place', rest, hsecond, hrest⟩ := exists_nextDigit place hlater second
        rw [hspelled, List.length_cons, List.length_cons] at hlength
        rw [← hrest] at others hlength
        obtain ⟨bytes, hbytes⟩ := ih place' (Nat.succ.inj (Nat.succ.inj hlength)) others
        rw [fixedFrom, hfirst]
        change ∃ bytes, (nextDigit place later >>= _) = _
        rw [hsecond]
        change ∃ bytes, (fixedFrom count place' rest >>= _) = _
        rw [hbytes]
        exact ⟨_, rfl⟩

end Hex

/-- A text that is an address: its characters behind the mark, blanks aside, are forty hexadecimal
digits, and these write the address. -/
structure Address.IsText (a : Address) (text : String) : Prop where
  /-- There are two digits for each octet. -/
  count : (Hex.spelled (Hex.withoutMark text.toList)).length = 40
  /-- The digits write the address as a number. -/
  value : Writes 16 (Hex.spelled (Hex.withoutMark text.toList)) a.toNat

/-- The texts of addresses are read for these, and no others are. -/
theorem Address.ofText_eq_ok {text : String} {a : Address} :
    Address.ofText text = .ok a ↔ a.IsText text := by
  have hvalue {bytes : Bytes} (hlength : bytes.length = 20) :
      (Address.ofBytes bytes).toNat = bytes.toNat := by
    have hlt := Bytes.toNat_lt bytes
    rw [hlength] at hlt
    rw [Address.ofBytes, BitVec.toNat_ofNat, Nat.mod_eq_of_lt (by omega)]
  rw [Address.ofText, Outcome.map_eq_ok, Hex.decodeFixed]
  constructor
  · rintro ⟨bytes, hbytes, rfl⟩
    obtain ⟨hlength, hspelled, hwrites⟩ := Hex.writes_of_fixedFrom hbytes
    refine ⟨hspelled, ?_⟩
    rw [hvalue hlength]
    exact hwrites
  · rintro ⟨hspelled, hwrites⟩
    have hdigits : (Hex.spelled (Hex.withoutMark text.toList)).length = 2 * 20 := hspelled
    obtain ⟨bytes, hbytes⟩ := Hex.exists_fixedFrom 0 hdigits hwrites
    obtain ⟨hlength, -, hread⟩ := Hex.writes_of_fixedFrom hbytes
    refine ⟨bytes, hbytes, BitVec.eq_of_toNat_eq ?_⟩
    rw [hvalue hlength, hread.unique hwrites]

end ContractToolkit
