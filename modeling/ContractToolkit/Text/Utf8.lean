import ContractToolkit.Bytes.Basic

/-!
# UTF-8

Text from octets, and where and how octets fail to be text. A fault is reported
at the first sequence that is not well formed; a sequence that only lacks its
last octets at the end of the input is incomplete rather than invalid.
-/

namespace ContractToolkit.Text

/-- Why octets are not UTF-8. -/
inductive Utf8Fault where
  /-- The octets from `index` on begin no character; `count` of them are at fault. -/
  | invalid (count index : Nat)
  /-- The input ends inside the character that begins at `index`. -/
  | incomplete (index : Nat)
  deriving DecidableEq, Repr

/-- Report of a fault. -/
def Utf8Fault.message : Utf8Fault → String
  | .invalid count index =>
    s!"invalid utf-8 sequence of {count} bytes from index {index}"
  | .incomplete index => s!"incomplete utf-8 byte sequence from index {index}"

/-- Ranges for the second octet of a character and the number of octets after it, by first octet. -/
def utf8Lead (b : UInt8) : Option (Nat × Nat × Nat) :=
  let n := b.toNat
  if 0xC2 ≤ n ∧ n ≤ 0xDF then some (0x80, 0xBF, 0)
  else if n = 0xE0 then some (0xA0, 0xBF, 1)
  else if n = 0xED then some (0x80, 0x9F, 1)
  else if 0xE1 ≤ n ∧ n ≤ 0xEF then some (0x80, 0xBF, 1)
  else if n = 0xF0 then some (0x90, 0xBF, 2)
  else if 0xF1 ≤ n ∧ n ≤ 0xF3 then some (0x80, 0xBF, 2)
  else if n = 0xF4 then some (0x80, 0x8F, 2)
  else none

/-- How the octets after the first one of a character go on. -/
inductive Utf8Tail where
  /-- As many octets complete the character. -/
  | whole (count : Nat)
  /-- As many octets, the first one included, are at fault. -/
  | broken (count : Nat)
  /-- The input ends too early. -/
  | cut
  deriving DecidableEq, Repr

/-- Continuation octets after the first `seen` octets of a character, `more` of them being due. -/
def utf8Continuations (seen : Nat) : (more : Nat) → Bytes → Utf8Tail
  | 0, _ => .whole (seen - 1)
  | _ + 1, [] => .cut
  | more + 1, b :: rest =>
    if 0x80 ≤ b.toNat ∧ b.toNat ≤ 0xBF then utf8Continuations (seen + 1) more rest
    else .broken seen

/-- The octets that belong to the first octet of a character. -/
def utf8Tail (first : UInt8) (rest : Bytes) : Utf8Tail :=
  if first < 0x80 then .whole 0
  else match utf8Lead first, rest with
    | none, _ => .broken 1
    | some _, [] => .cut
    | some (low, high, more), second :: rest =>
      if low ≤ second.toNat ∧ second.toNat ≤ high then utf8Continuations 2 more rest
      else .broken 1

/-- The first fault of octets that begin at `index`, when `skip` of them complete a character. -/
def utf8Fault? (index skip : Nat) : Bytes → Option Utf8Fault
  | [] => none
  | b :: rest =>
    match skip with
    | skip + 1 => utf8Fault? (index + 1) skip rest
    | 0 =>
      match utf8Tail b rest with
      | .whole count => utf8Fault? (index + 1) count rest
      | .broken count => some (.invalid count index)
      | .cut => some (.incomplete index)

/-- The octets of a text. -/
def utf8 (s : String) : Bytes := s.toByteArray.data.toList

/-- The text of octets. -/
def ofUtf8 (bytes : Bytes) : Except Utf8Fault String :=
  match String.fromUTF8? ⟨bytes.toArray⟩ with
  | some s => .ok s
  | none => .error ((utf8Fault? 0 0 bytes).getD (.incomplete 0))

/-- Octets are a text exactly when they are its octets. -/
theorem ofUtf8_eq_ok {bytes : Bytes} {s : String} : ofUtf8 bytes = .ok s ↔ bytes = utf8 s := by
  simp only [ofUtf8, utf8, String.fromUTF8?]
  by_cases hvalid : (ByteArray.mk bytes.toArray).IsValidUTF8
  · rw [dif_pos hvalid]
    constructor
    · intro h
      cases h
      rfl
    · rintro rfl
      rfl
  · rw [dif_neg hvalid]
    constructor
    · intro h
      cases h
    · rintro rfl
      exact absurd s.isValidUTF8 hvalid

/-- Texts of the same octets are equal. -/
theorem utf8_inj {s t : String} : utf8 s = utf8 t ↔ s = t := by
  constructor
  · intro h
    have hread := ofUtf8_eq_ok.mpr h
    rw [ofUtf8_eq_ok.mpr rfl] at hread
    exact Except.ok.inj hread
  · rintro rfl
    rfl

end ContractToolkit.Text
