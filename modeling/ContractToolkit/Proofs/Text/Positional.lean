import ContractToolkit.Proofs.Text.Sizes
import Mathlib.Algebra.Group.Nat.Defs

/-!
# Digits in their places

Digits of a base write a number: each of them counts as often as the power of the
base that its place stands for. The decimal and the hexadecimal readers take
exactly the runs of such digits, and make the number that they write of them.
-/

namespace ContractToolkit.Text

/-- Digits of a base, most significant first, and the number that they write. -/
inductive Writes (base : Nat) : List Char → Nat → Prop
  | none : Writes base [] 0
  | digit {c : Char} {rest : List Char} {d n : Nat} (first : hexDigit? c = some d)
      (small : d < base) (others : Writes base rest n) :
      Writes base (c :: rest) (d * base ^ rest.length + n)

/-- The decimal digits are the characters from `0` to `9`. -/
theorem hexDigit?_small {c : Char} {d : Nat} :
    hexDigit? c = some d ∧ d < 10 ↔ c.isDigit = true ∧ c.toNat - '0'.toNat = d := by
  rw [hexDigit?]
  split
  · rename_i hdigit
    have hrange := Char.isDigit_iff_toNat.mp hdigit
    have hends : '0'.toNat = 48 ∧ '9'.toNat = 57 := ⟨rfl, rfl⟩
    rw [Option.some.injEq]
    constructor
    · rintro ⟨rfl, -⟩
      exact ⟨hdigit, rfl⟩
    · rintro ⟨-, rfl⟩
      exact ⟨rfl, by omega⟩
  · rename_i hother
    constructor
    · rintro ⟨hd, hsmall⟩
      split at hd
      · cases hd
        omega
      · split at hd
        · cases hd
          omega
        · cases hd
    · rintro ⟨hdigit, -⟩
      exact absurd hdigit hother

/-- A digit is below sixteen. -/
theorem hexDigit?_lt {c : Char} {d : Nat} (h : hexDigit? c = some d) : d < 16 := by
  have hle {a b : Char} (hab : a ≤ b) : a.toNat ≤ b.toNat := hab
  rw [hexDigit?] at h
  split at h
  · rename_i hdigit
    have hrange := Char.isDigit_iff_toNat.mp hdigit
    have hends : '0'.toNat = 48 ∧ '9'.toNat = 57 := ⟨rfl, rfl⟩
    cases h
    omega
  · split at h
    · rename_i hlower
      have hlast := hle hlower.2
      have hends : 'a'.toNat = 97 ∧ 'f'.toNat = 102 := ⟨rfl, rfl⟩
      cases h
      omega
    · split at h
      · rename_i hupper
        have hlast := hle hupper.2
        have hends : 'A'.toNat = 65 ∧ 'F'.toNat = 70 := ⟨rfl, rfl⟩
        cases h
        omega
      · cases h

/-- A number is below the power of the base that its digits have places for. -/
theorem Writes.lt {base n : Nat} {s : List Char} (h : Writes base s n) : n < base ^ s.length := by
  induction h with
  | none => simp
  | @digit c rest d n _ small _ ih =>
    calc d * base ^ rest.length + n
        < d * base ^ rest.length + base ^ rest.length := Nat.add_lt_add_left ih _
      _ = (d + 1) * base ^ rest.length := by rw [Nat.add_mul, Nat.one_mul]
      _ ≤ base * base ^ rest.length := Nat.mul_le_mul_right _ small
      _ = base ^ (c :: rest).length := by rw [List.length_cons, Nat.pow_succ']

/-- What is read of hexadecimal digits behind a number. -/
theorem hexValueFrom?_eq_some {start n : Nat} {s : List Char} :
    hexValueFrom? start s = some n ↔ ∃ m, Writes 16 s m ∧ n = start * 16 ^ s.length + m := by
  induction s generalizing start with
  | nil =>
    constructor
    · intro h
      cases h
      exact ⟨0, .none, by simp⟩
    · rintro ⟨m, hm, rfl⟩
      cases hm
      simp [hexValueFrom?]
  | cons c rest ih =>
    have hshift (d m : Nat) : (start * 16 + d) * 16 ^ rest.length + m =
        start * 16 ^ (c :: rest).length + (d * 16 ^ rest.length + m) := by
      rw [List.length_cons, Nat.pow_succ', Nat.add_mul, Nat.mul_assoc, Nat.add_assoc]
    rw [hexValueFrom?, Option.bind_eq_some_iff]
    simp only [ih]
    constructor
    · rintro ⟨d, hd, m, hm, rfl⟩
      exact ⟨_, .digit hd (hexDigit?_lt hd) hm, hshift d m⟩
    · rintro ⟨_, hm, rfl⟩
      cases hm with
      | @digit _ _ d m first small others => exact ⟨d, first, m, others, (hshift d m).symm⟩

/-- A text of hexadecimal digits is read as the number that they write, and no other text is. -/
theorem hexValue?_eq_some {n : Nat} {s : List Char} : hexValue? s = some n ↔ Writes 16 s n := by
  rw [hexValue?, hexValueFrom?_eq_some]
  simp

/-- What decimal digits add to a number that stands in front of them. -/
theorem Writes.ofDigitChars_eq {n : Nat} {s : List Char} (h : Writes 10 s n) (start : Nat) :
    Nat.ofDigitChars 10 s start = start * 10 ^ s.length + n := by
  induction h generalizing start with
  | none => simp [Nat.ofDigitChars]
  | @digit c rest d n first small _ ih =>
    obtain ⟨-, hd⟩ := hexDigit?_small.mp ⟨first, small⟩
    rw [Nat.ofDigitChars_cons, ih, hd, List.length_cons, Nat.pow_succ', Nat.add_mul,
      Nat.mul_comm 10 start, Nat.mul_assoc, Nat.add_assoc]

/-- A text of decimal digits is read as the number that they write. -/
theorem writes_ten_iff {n : Nat} {s : List Char} :
    Writes 10 s n ↔ s.all Char.isDigit = true ∧ decimalValue s = n := by
  have hvalue {m : Nat} (h : Writes 10 s m) : decimalValue s = m := by
    rw [decimalValue, h.ofDigitChars_eq, Nat.zero_mul, Nat.zero_add]
  constructor
  · intro h
    refine ⟨?_, hvalue h⟩
    clear hvalue
    induction h with
    | none => rfl
    | digit first small _ ih =>
      rw [List.all_cons, (hexDigit?_small.mp ⟨first, small⟩).1, ih, Bool.and_self]
  · rintro ⟨hdigits, rfl⟩
    have hwritten : ∃ m, Writes 10 s m := by
      clear hvalue
      induction s with
      | nil => exact ⟨0, .none⟩
      | cons c rest ih =>
        rw [List.all_cons, Bool.and_eq_true] at hdigits
        obtain ⟨m, hm⟩ := ih hdigits.2
        obtain ⟨first, small⟩ := hexDigit?_small.mpr ⟨hdigits.1, rfl⟩
        exact ⟨_, .digit first small hm⟩
    obtain ⟨m, hm⟩ := hwritten
    rw [hvalue hm]
    exact hm

/-- The digits of a number write it. -/
theorem writes_decimal (n : Nat) : Writes 10 (decimal n) n :=
  writes_ten_iff.mpr ⟨List.all_eq_true.mpr (isDecimal_iff.mp (isDecimal_decimal n)).2,
    decimalValue_decimal n⟩

/-- Digits write one number only. -/
theorem Writes.unique {base m n : Nat} {s : List Char} (hm : Writes base s m)
    (hn : Writes base s n) : m = n := by
  induction hm generalizing n with
  | none =>
    cases hn
    rfl
  | digit first _ _ ih =>
    cases hn with
    | digit first' _ others =>
      obtain rfl := Option.some.inj (first.symm.trans first')
      rw [ih others]

/-- Each character that writes a number is a digit. -/
theorem Writes.digit_of_mem {base n : Nat} {s : List Char} (h : Writes base s n) {c : Char}
    (hc : c ∈ s) : ∃ d, hexDigit? c = some d := by
  induction h with
  | none => cases hc
  | digit first _ _ ih =>
    cases List.mem_cons.mp hc with
    | inl heq => exact ⟨_, heq ▸ first⟩
    | inr hrest => exact ih hrest

/-- Digits behind other digits leave to these the places in front of them. -/
theorem Writes.append {base m n : Nat} {s t : List Char} (hs : Writes base s m)
    (ht : Writes base t n) : Writes base (s ++ t) (m * base ^ t.length + n) := by
  induction hs with
  | none =>
    rw [List.nil_append, Nat.zero_mul, Nat.zero_add]
    exact ht
  | @digit c rest d m first small _ ih =>
    have hplaces : (d * base ^ rest.length + m) * base ^ t.length + n =
        d * base ^ (rest ++ t).length + (m * base ^ t.length + n) := by
      rw [List.length_append, Nat.pow_add, Nat.add_mul, Nat.mul_assoc, Nat.add_assoc]
    rw [hplaces]
    exact .digit first small ih

/-- Zeros write zero. -/
theorem writes_zeros {base : Nat} (hbase : 0 < base) (count : Nat) :
    Writes base (.replicate count '0') 0 := by
  induction count with
  | zero => exact .none
  | succ count ih =>
    have hzero : Writes base ('0' :: .replicate count '0') (0 * base ^ _ + 0) := .digit rfl hbase ih
    rwa [Nat.zero_mul] at hzero

/-- Digits at the end that are left out divide the number, and what is less than one is cut off. -/
theorem Writes.front {base n : Nat} {front back : List Char} (hbase : 0 < base)
    (h : Writes base (front ++ back) n) : Writes base front (n / base ^ back.length) := by
  induction front generalizing n with
  | nil =>
    have hsmall : n < base ^ back.length := h.lt
    rw [Nat.div_eq_of_lt hsmall]
    exact .none
  | cons c rest ih =>
    rw [List.cons_append] at h
    generalize hdigits : rest ++ back = digits at h
    cases h with
    | @digit _ _ d n first small others =>
      subst hdigits
      have hcut : (d * base ^ (rest ++ back).length + n) / base ^ back.length =
          d * base ^ rest.length + n / base ^ back.length := by
        rw [List.length_append, Nat.pow_add, ← Nat.mul_assoc, Nat.add_comm,
          Nat.add_mul_div_right _ _ (Nat.pow_pos hbase), Nat.add_comm]
      rw [hcut]
      exact .digit first small (ih others)

/-- A number as a size is written in a base: in digits, at least one, with or without a plus sign in
front. -/
inductive WritesSigned (base : Nat) : List Char → Nat → Prop
  | plain {digits : List Char} {n : Nat} (some : digits ≠ []) (value : Writes base digits n) :
      WritesSigned base digits n
  | plus {digits : List Char} {n : Nat} (some : digits ≠ []) (value : Writes base digits n) :
      WritesSigned base ('+' :: digits) n

/-- A plus sign is no digit. -/
theorem not_writes_plus {base n : Nat} {rest : List Char} : ¬ Writes base ('+' :: rest) n := by
  intro h
  obtain ⟨d, hd⟩ := h.digit_of_mem List.mem_cons_self
  cases hd

/-- The mark of hexadecimal digits does not consist of digits. -/
theorem not_writes_mark {base n : Nat} {rest : List Char} :
    ¬ Writes base ('0' :: 'x' :: rest) n := by
  intro h
  obtain ⟨d, hd⟩ := h.digit_of_mem (List.mem_cons_of_mem _ List.mem_cons_self)
  cases hd

/-- A number is written with a sign when digits write it once a plus sign is left out. -/
theorem writesSigned_iff {base n : Nat} {s : List Char} :
    WritesSigned base s n ↔ withoutPlus s ≠ [] ∧ Writes base (withoutPlus s) n := by
  constructor
  · intro h
    cases h with
    | plain some value =>
      have hbare : withoutPlus s = s := by
        rw [withoutPlus.eq_def]
        split
        · exact absurd value not_writes_plus
        · rfl
      rw [hbare]
      exact ⟨some, value⟩
    | plus some value => exact ⟨some, value⟩
  · rintro ⟨hsome, hvalue⟩
    have hsign : s = '+' :: withoutPlus s ∨ s = withoutPlus s := by
      unfold withoutPlus
      split
      · exact Or.inl rfl
      · exact Or.inr rfl
    cases hsign with
    | inl hplus => exact hplus ▸ .plus hsome hvalue
    | inr hbare => exact hbare ▸ .plain hsome hvalue

/-- A sign and digits write one number only. -/
theorem WritesSigned.unique {base m n : Nat} {s : List Char} (hm : WritesSigned base s m)
    (hn : WritesSigned base s n) : m = n :=
  (writesSigned_iff.mp hm).2.unique (writesSigned_iff.mp hn).2

/-- What is read as a size is a number in decimal digits, as far as it is a size. -/
theorem size?_eq_some_iff_writesSigned {s : List Char} {n : Nat} :
    size? s = some n ↔ WritesSigned 10 s n ∧ n < Machine.sizeLimit := by
  have hdecimal : WritesSigned 10 s n ↔
      isDecimal (withoutPlus s) = true ∧ decimalValue (withoutPlus s) = n := by
    rw [writesSigned_iff, writes_ten_iff, isDecimal, Bool.and_eq_true, and_assoc]
    simp
  rw [hdecimal, size?]
  constructor
  · intro h
    split at h
    · rename_i hread
      rw [Bool.and_eq_true, decide_eq_true_eq] at hread
      obtain rfl := Option.some.inj h
      exact ⟨⟨hread.1, rfl⟩, hread.2⟩
    · cases h
  · rintro ⟨⟨hdigits, rfl⟩, hlimit⟩
    simp [hdigits, hlimit]

/-- What is read as a size in hexadecimal digits is a number in them, as far as it is a size. -/
theorem hexSize?_eq_some {s : List Char} {n : Nat} :
    hexSize? s = some n ↔ WritesSigned 16 s n ∧ n < Machine.sizeLimit := by
  rw [writesSigned_iff, hexSize?]
  cases withoutPlus s with
  | nil => simp
  | cons c rest =>
    dsimp only
    rw [Option.filter_eq_some_iff, hexValue?_eq_some, decide_eq_true_eq]
    simp

end ContractToolkit.Text
