import ContractToolkit.Bytes.Basic
import ContractToolkit.Text.Quoted
import ContractToolkit.Text.Utf8

/-!
# Octets as hexadecimal text

Octets are written as two lower-case digits each. There are two readers: one
for byte strings of any length, which looks at the number of digits first, and
one for byte strings of a fixed length, which reads digit by digit and passes
over blanks between them.
-/

namespace ContractToolkit

/-- The two digits of an octet. -/
def hexPair (b : UInt8) : List Char :=
  [Nat.digitChar (b.toNat / 16), Nat.digitChar (b.toNat % 16)]

/-- The digits of a byte string. -/
def Bytes.hexDigits (bytes : Bytes) : List Char := bytes.flatMap hexPair

/-- The digits of a byte string after `0x`. -/
def Bytes.hex (bytes : Bytes) : String := String.ofList ('0' :: 'x' :: bytes.hexDigits)

/-- The digits of a byte string without a mark. -/
def Bytes.bareHex (bytes : Bytes) : String := String.ofList bytes.hexDigits

/-- A word in full, after `0x`. -/
def Word.hex (w : Word) : String := Bytes.hex (Word.bytes w)

/-- An address in full, after `0x`. -/
def Address.hex (a : Address) : String := Bytes.hex (Address.bytes a)

namespace Hex

/-- The text after one leading `0x`, or all of it. -/
def withoutMark : List Char → List Char
  | '0' :: 'x' :: rest => rest
  | s => s

/-- The text after as many leading `0x` as there are. -/
def withoutMarks : List Char → List Char
  | '0' :: 'x' :: rest => withoutMarks rest
  | s => s

/-- Why a text is no byte string. -/
inductive Fault where
  /-- The text does not have two digits for each octet. -/
  | oddLength
  /-- The octet of the text at `index` is no digit. -/
  | notDigit (octet : UInt8) (index : Nat)
  deriving DecidableEq, Repr

/-- Report of a fault; the octet is shown as the character with its number. -/
def Fault.message : Fault → String
  | .oddLength => "Odd number of digits"
  | .notDigit octet index =>
    let shown := Text.quotedChar (Char.ofNat octet.toNat)
    let place := Text.ofNat index
    s!"Invalid character {shown} at position {place}"

/-- The digit at a place of the text. -/
def digitAt (octet : UInt8) (index : Nat) : Except Fault Nat :=
  match Text.hexDigit? (Char.ofNat octet.toNat) with
  | some d => .ok d
  | none => .error (.notDigit octet index)

/-- The octets written by pairs of digits, the first of which is at `index`. -/
def pairs (index : Nat) : Bytes → Except Fault Bytes
  | [] => .ok []
  | [_] => .error .oddLength
  | a :: b :: rest => do
    let high ← digitAt a index
    let low ← digitAt b (index + 1)
    let more ← pairs (index + 2) rest
    return UInt8.ofNat (high * 16 + low) :: more

/-- The octets that a text without mark writes. -/
def decode (digits : List Char) : Except Fault Bytes :=
  let octets := Text.utf8 (String.ofList digits)
  if octets.length % 2 = 1 then .error .oddLength else pairs 0 octets

/-- Why a text is no byte string of the wanted length. -/
inductive FixedFault where
  /-- Too few or too many digits. -/
  | wrongLength
  /-- The character at octet `index` of the text is no digit. -/
  | notDigit (char : Char) (index : Nat)
  deriving DecidableEq, Repr

/-- Report of a fault. -/
def FixedFault.message : FixedFault → String
  | .wrongLength => "Invalid input length"
  | .notDigit char index =>
    let shown := String.singleton char
    let place := Text.ofNat index
    s!"Invalid character '{shown}' at position {place}"

/-- Blanks that may stand between the digits of a fixed-length byte string. -/
def isGap (c : Char) : Bool := c == ' ' || c == '\r' || c == '\n' || c == '\t'

/-- The first digit at or after `index`, what follows it and where, or nothing at the end. -/
def nextDigit (index : Nat) : List Char → Except FixedFault (Option (Nat × Nat × List Char))
  | [] => .ok none
  | c :: rest =>
    if isGap c then nextDigit (index + 1) rest
    else match Text.hexDigit? c with
      | some d => .ok (some (d, index + 1, rest))
      | none => .error (.notDigit c index)

/-- The octets written by a text for a wanted count, and nothing after them. -/
def fixedFrom : (count : Nat) → (index : Nat) → List Char → Except FixedFault Bytes
  | 0, index, s =>
    match nextDigit index s with
    | .ok none => .ok []
    | _ => .error .wrongLength
  | count + 1, index, s => do
    let some (high, index, s) ← nextDigit index s | .error .wrongLength
    let some (low, index, s) ← nextDigit index s | .error .wrongLength
    let more ← fixedFrom count index s
    return UInt8.ofNat (high * 16 + low) :: more

/-- The byte string of a wanted length that a text writes, with or without `0x`. -/
def decodeFixed (count : Nat) (s : List Char) : Except FixedFault Bytes :=
  fixedFrom count 0 (withoutMark s)

end Hex

/-- The address that a text writes. -/
def Address.ofText (s : String) : Except Hex.FixedFault Address :=
  (Hex.decodeFixed 20 s.toList).map Address.ofBytes

/-- The word that a text of 64 digits writes. -/
def Word.ofText (s : String) : Except Hex.FixedFault Word :=
  (Hex.decodeFixed 32 s.toList).map Word.ofBytes

end ContractToolkit
