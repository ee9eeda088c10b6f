import ContractToolkit.Text.Number
import ContractToolkit.Text.WhiteSpace

/-!
# Tables of characters

A table tells something about characters, row by row. A row is a word: the
hexadecimal code point of a character, or of the first and the last of several
with a hyphen between them, and after a colon what is told. With a slash between
first and last the row is for every second of them.
-/

namespace ContractToolkit.DomainName

/-- A row of a table. -/
structure Row where
  /-- Code point of the first character. -/
  first : Nat
  /-- Code point of the last character. -/
  last : Nat
  /-- Distance from each character to the next one. -/
  step : Nat
  /-- What is told of the characters. -/
  value : List Char
  deriving Repr

/-- The number in hexadecimal digits. -/
def hexNumber (s : List Char) : Nat := (Text.hexValue? s).getD 0

/-- Whether a character is a hexadecimal digit. -/
def isHexDigit (c : Char) : Bool := (Text.hexDigit? c).isSome

/-- The row that a word writes. -/
def Row.ofWord (word : List Char) : Row :=
  let place := word.takeWhile (· != ':')
  let value := (word.dropWhile (· != ':')).drop 1
  let first := hexNumber (place.takeWhile isHexDigit)
  match place.dropWhile isHexDigit with
  | '-' :: last => ⟨first, hexNumber last, 1, value⟩
  | '/' :: last => ⟨first, hexNumber last, 2, value⟩
  | _ => ⟨first, first, 1, value⟩

/-- Whether a row is for a character. -/
def Row.holds (r : Row) (c : Char) : Bool :=
  r.first ≤ c.toNat && c.toNat ≤ r.last && (c.toNat - r.first) % r.step == 0

/-- The rows that lines of words write. -/
def rowsOf (lines : List String) : List Row :=
  lines.flatMap fun line => (Text.words line.toList).map Row.ofWord

/-- The row for a character. -/
def rowFor? (rows : List Row) (c : Char) : Option Row := rows.find? fun r => r.holds c

/-- Whether a table lists a character. -/
def isListed (rows : List Row) (c : Char) : Bool := rows.any fun r => r.holds c

end ContractToolkit.DomainName
