import ContractToolkit.Bytes.Hex
import ContractToolkit.Proofs.Bytes.Numerals

/-!
# Octets read back from their digits

What is written as two digits an octet is read back by either of the two readers,
the one that looks at the octets of the text and the one that reads digit by digit.
-/

namespace ContractToolkit

open Text

namespace Text

/-- The octets of a text of ASCII characters are the numbers of these. -/
theorem utf8_ofList {cs : List Char} (h : ∀ c ∈ cs, c.toNat < 128) :
    utf8 (String.ofList cs) = cs.map fun c => UInt8.ofNat c.toNat := by
  have hencode (cs : List Char) (h : ∀ c ∈ cs, c.toNat < 128) :
      cs.flatMap String.utf8EncodeChar = cs.map fun c => UInt8.ofNat c.toNat := by
    induction cs with
    | nil => rfl
    | cons c rest ih =>
      obtain ⟨hc, hrest⟩ := List.forall_mem_cons.mp h
      have hsingle : String.utf8EncodeChar c = [UInt8.ofNat c.toNat] := by
        have hval : c.val.toNat ≤ 127 := Nat.le_of_lt_succ hc
        simp only [String.utf8EncodeChar]
        rw [if_pos hval]
        rfl
      rw [List.flatMap_cons, List.map_cons, hsingle, ih hrest]
      rfl
  rw [utf8, String.toByteArray_ofList, List.utf8Encode, ← hencode cs h]
  simp

/-- A digit is read as the number that it was written for. -/
theorem hexDigit?_digitChar {n : Nat} (h : n < 16) : hexDigit? (Nat.digitChar n) = some n := by
  have hall : ∀ n < 16, hexDigit? (Nat.digitChar n) = some n := by decide
  exact hall n h

/-- A digit is an ASCII character. -/
theorem toNat_digitChar_lt {n : Nat} (h : n < 16) : (Nat.digitChar n).toNat < 128 := by
  have hall : ∀ n < 16, (Nat.digitChar n).toNat < 128 := by decide
  exact hall n h

/-- A digit is no blank between digits. -/
theorem isGap_digitChar {n : Nat} (h : n < 16) : Hex.isGap (Nat.digitChar n) = false := by
  have hall : ∀ n < 16, Hex.isGap (Nat.digitChar n) = false := by decide
  exact hall n h

end Text

namespace Hex

/-- The mark in front of digits is taken off. -/
theorem withoutMark_hex (bytes : Bytes) : withoutMark bytes.hex.toList = bytes.hexDigits := by
  rw [Bytes.hex, String.toList_ofList]
  rfl

/-- The digits of a byte string are those of its first octet and those of the others. -/
theorem hexDigits_cons (b : UInt8) (rest : Bytes) : Bytes.hexDigits (b :: rest) =
    Nat.digitChar (b.toNat / 16) :: Nat.digitChar (b.toNat % 16) :: rest.hexDigits :=
  rfl

/-- Half of an octet is a digit. -/
theorem high_lt (b : UInt8) : b.toNat / 16 < 16 := by
  have hb := b.toNat_lt
  omega

/-- The other half of an octet is a digit. -/
theorem low_lt (b : UInt8) : b.toNat % 16 < 16 := by
  omega

/-- Two digits make an octet. -/
theorem ofNat_halves (b : UInt8) : UInt8.ofNat (b.toNat / 16 * 16 + b.toNat % 16) = b := by
  rw [Nat.div_add_mod', UInt8.ofNat_toNat]

/-- The octet of a digit is read as the number that it was written for. -/
theorem digitAt_digitChar {n : Nat} (h : n < 16) (index : Nat) :
    digitAt (UInt8.ofNat (Nat.digitChar n).toNat) index = .ok n := by
  have hascii := toNat_digitChar_lt h
  have hchar : Char.ofNat (UInt8.ofNat (Nat.digitChar n).toNat).toNat = Nat.digitChar n := by
    rw [UInt8.toNat_ofNat', Nat.mod_eq_of_lt (by omega), Char.ofNat_toNat]
  rw [digitAt, hchar, hexDigit?_digitChar h]

/-- Pairs of digits are read as the octets that they were written for. -/
theorem pairs_hexDigits (bytes : Bytes) (index : Nat) :
    pairs index (bytes.hexDigits.map fun c => UInt8.ofNat c.toNat) = .ok bytes := by
  induction bytes generalizing index with
  | nil => rfl
  | cons b rest ih =>
    rw [hexDigits_cons, List.map_cons, List.map_cons, pairs, digitAt_digitChar (high_lt b),
      digitAt_digitChar (low_lt b), ih (index + 2)]
    exact congrArg (fun octet => Except.ok (octet :: rest)) (ofNat_halves b)

/-- The digits of a byte string are ASCII characters, two for each octet. -/
theorem hexDigits_ascii (bytes : Bytes) : ∀ c ∈ bytes.hexDigits, c.toNat < 128 := by
  intro c hc
  obtain ⟨b, -, hpair⟩ := List.mem_flatMap.mp hc
  simp only [hexPair, List.mem_cons, List.not_mem_nil, or_false] at hpair
  cases hpair with
  | inl hhigh => exact hhigh ▸ toNat_digitChar_lt (high_lt b)
  | inr hlow => exact hlow ▸ toNat_digitChar_lt (low_lt b)

/-- There are two digits for each octet. -/
theorem length_hexDigits (bytes : Bytes) : bytes.hexDigits.length = 2 * bytes.length := by
  induction bytes with
  | nil => rfl
  | cons b rest ih =>
    rw [hexDigits_cons, List.length_cons, List.length_cons, ih, List.length_cons]
    omega

/-- A byte string is read back from its digits. -/
theorem decode_hexDigits (bytes : Bytes) : decode bytes.hexDigits = .ok bytes := by
  have hoctets := utf8_ofList (hexDigits_ascii bytes)
  have heven : ¬ (utf8 (String.ofList bytes.hexDigits)).length % 2 = 1 := by
    rw [hoctets, List.length_map, length_hexDigits]
    omega
  rw [decode, if_neg heven, hoctets, pairs_hexDigits]

/-- A digit at the start of a text is the next one. -/
theorem nextDigit_digitChar {n : Nat} (h : n < 16) (index : Nat) (rest : List Char) :
    nextDigit index (Nat.digitChar n :: rest) = .ok (some (n, index + 1, rest)) := by
  rw [nextDigit, isGap_digitChar h, hexDigit?_digitChar h]
  rfl

/-- A byte string of the wanted length is read back from its digits. -/
theorem fixedFrom_hexDigits (bytes : Bytes) (index : Nat) :
    fixedFrom bytes.length index bytes.hexDigits = .ok bytes := by
  induction bytes generalizing index with
  | nil => rfl
  | cons b rest ih =>
    rw [hexDigits_cons, List.length_cons, fixedFrom, nextDigit_digitChar (high_lt b)]
    change (nextDigit (index + 1) (Nat.digitChar (b.toNat % 16) :: Bytes.hexDigits rest) >>= _) = _
    rw [nextDigit_digitChar (low_lt b)]
    change (fixedFrom rest.length (index + 1 + 1) (Bytes.hexDigits rest) >>= _) = _
    rw [ih]
    exact congrArg (fun octet => Except.ok (octet :: rest)) (ofNat_halves b)

end Hex

/-- An address is read back from its text. -/
theorem Address.ofText_hex (a : Address) : Address.ofText a.hex = .ok a := by
  have hfixed := Hex.fixedFrom_hexDigits (Address.bytes a) 0
  rw [Address.length_bytes] at hfixed
  rw [Address.ofText, Address.hex, Hex.decodeFixed, Hex.withoutMark_hex, hfixed]
  exact congrArg Except.ok (Address.ofBytes_bytes a)

end ContractToolkit
