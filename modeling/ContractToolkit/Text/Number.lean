import ContractToolkit.Machine.Size

/-!
# Numbers written in text

Decimal and hexadecimal runs of ASCII digits, and the sizes written with them:
one leading `+` and any leading zeros are allowed, nothing else beside digits.
-/

namespace ContractToolkit.Text

/-- The decimal digits of a number, `0` for zero. -/
def decimal (n : Nat) : List Char := Nat.toDigits 10 n

/-- A non-empty run of decimal digits. -/
def isDecimal (s : List Char) : Bool := !s.isEmpty && s.all Char.isDigit

/-- The number written by decimal digits, most significant first; zero for no digits. -/
def decimalValue (digits : List Char) : Nat := Nat.ofDigitChars 10 digits 0

/-- The value of a hexadecimal digit in either case. -/
def hexDigit? (c : Char) : Option Nat :=
  if c.isDigit then some (c.toNat - '0'.toNat)
  else if 'a' ≤ c ∧ c ≤ 'f' then some (c.toNat - 'a'.toNat + 10)
  else if 'A' ≤ c ∧ c ≤ 'F' then some (c.toNat - 'A'.toNat + 10)
  else none

/-- The number written by hexadecimal digits, after the number `start`. -/
def hexValueFrom? (start : Nat) : List Char → Option Nat
  | [] => some start
  | c :: rest => (hexDigit? c).bind fun d => hexValueFrom? (start * 16 + d) rest

/-- The number written by hexadecimal digits; zero for no digits. -/
def hexValue? (digits : List Char) : Option Nat := hexValueFrom? 0 digits

/-- The lower-case hexadecimal digits of a number, `0` for zero. -/
def hexadecimal (n : Nat) : List Char := Nat.toDigits 16 n

/-- The text without one leading plus sign. -/
def withoutPlus : List Char → List Char
  | '+' :: rest => rest
  | s => s

/-- A size in decimal digits. -/
def size? (s : List Char) : Option Nat :=
  let digits := withoutPlus s
  if isDecimal digits && decimalValue digits < Machine.sizeLimit then some (decimalValue digits)
  else none

/-- A size in hexadecimal digits. -/
def hexSize? (s : List Char) : Option Nat :=
  match withoutPlus s with
  | [] => none
  | digits => (hexValue? digits).filter (· < Machine.sizeLimit)

/-- A number as text. -/
def ofNat (n : Nat) : String := String.ofList (decimal n)

/-- An integer as text, with a minus sign when negative. -/
def ofInt : Int → String
  | .ofNat n => ofNat n
  | .negSucc n => "-" ++ ofNat (n + 1)

end ContractToolkit.Text
