import ContractToolkit.Toml.Basic

/-!
# Scalars of TOML

Texts in their four spellings, integers in four bases, floating point numbers,
truth values, dates and times, as they stand at the start of a text. Every
reader gives what it has read and what follows it.
-/

namespace ContractToolkit.Toml

/-- Blanks inside a line. -/
def isSpace (c : Char) : Bool := c == ' ' || c == '\t'

/-- A text without its leading blanks. -/
def skipSpace (s : List Char) : List Char := s.dropWhile isSpace

/-- A character that a comment or a text may hold as it is. -/
def isPlain (c : Char) : Bool := c == '\t' || (' ' ≤ c && c ≤ '~') || '\x80' ≤ c

/-- The text after a line break. -/
def afterBreak? : List Char → Option (List Char)
  | '\n' :: rest => some rest
  | '\r' :: '\n' :: rest => some rest
  | _ => none

/-- A text without a line break at its start. -/
def skipBreak (s : List Char) : List Char := (afterBreak? s).getD s

/-- The character of a code point that is no half of a surrogate pair. -/
def scalar? (digits : List Char) : Option Char :=
  (Text.hexValue? digits).bind fun n => if n.isValidChar then some (Char.ofNat n) else none

/-- The character of a one-letter escape. -/
def simpleEscape : Char → Option Char
  | 'b' => some '\x08'
  | 't' => some '\t'
  | 'n' => some '\n'
  | 'f' => some '\x0c'
  | 'r' => some '\r'
  | '"' => some '"'
  | '\\' => some '\\'
  | _ => none

/-- A character in front of what has been read. -/
def consChar (c : Char) : Option (List Char × List Char) → Option (List Char × List Char)
  | some (cs, rest) => some (c :: cs, rest)
  | none => none

/-- A text in double quotes on one line, after the opening quote. -/
def basicText : List Char → Option (List Char × List Char)
  | [] => none
  | '"' :: rest => some ([], rest)
  | '\\' :: 'u' :: a :: b :: c :: d :: rest =>
    (scalar? [a, b, c, d]).bind fun x => consChar x (basicText rest)
  | '\\' :: 'U' :: a :: b :: c :: d :: e :: f :: g :: h :: rest =>
    (scalar? [a, b, c, d, e, f, g, h]).bind fun x => consChar x (basicText rest)
  | '\\' :: c :: rest => (simpleEscape c).bind fun x => consChar x (basicText rest)
  | c :: rest => if isPlain c then consChar c (basicText rest) else none

/-- A text in single quotes on one line, after the opening quote. -/
def literalText : List Char → Option (List Char × List Char)
  | [] => none
  | c :: rest =>
    if c = '\'' then some ([], rest)
    else if isPlain c then consChar c (literalText rest)
    else none

/-- What three quotes or more stand for at the end of a text over several lines: up to two of them
are part of it. -/
def closingQuotes (quote : Char) (s : List Char) : Option (List Char × List Char) :=
  let run := s.takeWhile (· == quote)
  if 3 ≤ run.length ∧ run.length ≤ 5 then
    some (List.replicate (run.length - 3) quote, s.drop run.length)
  else none

/-- Whether a line ends behind nothing but blanks. -/
def endsLine (s : List Char) : Bool := (afterBreak? (skipSpace s)).isSome

/-- A text in triple double quotes, after the opening quotes and the line break behind them. While
`skipping`, a backslash at the end of a line takes the blanks and line breaks behind it away. -/
def longBasicText (skipping : Bool) : List Char → Option (List Char × List Char)
  | [] => none
  | '"' :: '"' :: '"' :: rest => closingQuotes '"' ('"' :: '"' :: '"' :: rest)
  | '\r' :: '\n' :: rest =>
    if skipping then longBasicText true rest else consChar '\n' (longBasicText false rest)
  | '\\' :: 'u' :: a :: b :: c :: d :: rest =>
    (scalar? [a, b, c, d]).bind fun x => consChar x (longBasicText false rest)
  | '\\' :: 'U' :: a :: b :: c :: d :: e :: f :: g :: h :: rest =>
    (scalar? [a, b, c, d, e, f, g, h]).bind fun x => consChar x (longBasicText false rest)
  | '\\' :: c :: rest =>
    match simpleEscape c with
    | some x => consChar x (longBasicText false rest)
    | none => if endsLine (c :: rest) then longBasicText true (c :: rest) else none
  | c :: rest =>
    if skipping && (isSpace c || c == '\n') then longBasicText true rest
    else if c == '\n' || isPlain c then consChar c (longBasicText false rest)
    else none

/-- A text in triple single quotes, after the opening quotes and the line break behind them. -/
def longLiteralText : List Char → Option (List Char × List Char)
  | [] => none
  | '\'' :: '\'' :: '\'' :: rest => closingQuotes '\'' ('\'' :: '\'' :: '\'' :: rest)
  | '\r' :: '\n' :: rest => consChar '\n' (longLiteralText rest)
  | c :: rest => if c == '\n' || isPlain c then consChar c (longLiteralText rest) else none

/-- A text in any spelling. -/
def readText : List Char → Option (String × List Char)
  | '"' :: '"' :: '"' :: rest =>
    (longBasicText false (skipBreak rest)).map fun (cs, rest) => (String.ofList cs, rest)
  | '\'' :: '\'' :: '\'' :: rest =>
    (longLiteralText (skipBreak rest)).map fun (cs, rest) => (String.ofList cs, rest)
  | '"' :: rest => (basicText rest).map fun (cs, rest) => (String.ofList cs, rest)
  | '\'' :: rest => (literalText rest).map fun (cs, rest) => (String.ofList cs, rest)
  | _ => none

/-- More digits of a number, each of them alone or behind an underscore. -/
def moreDigits (isDigit : Char → Bool) : List Char → List Char × List Char
  | '_' :: c :: rest =>
    if isDigit c then
      let (digits, rest) := moreDigits isDigit rest
      (c :: digits, rest)
    else ([], '_' :: c :: rest)
  | c :: rest =>
    if isDigit c then
      let (digits, rest) := moreDigits isDigit rest
      (c :: digits, rest)
    else ([], c :: rest)
  | [] => ([], [])

/-- The digits of a number, without the underscores between them. -/
def readDigits (isDigit : Char → Bool) : List Char → Option (List Char × List Char)
  | c :: rest =>
    if isDigit c then
      let (digits, rest) := moreDigits isDigit rest
      some (c :: digits, rest)
    else none
  | [] => none

/-- A sign, true for a minus. -/
def readSign : List Char → Bool × List Char
  | '-' :: rest => (true, rest)
  | '+' :: rest => (false, rest)
  | s => (false, s)

/-- A decimal integer: its sign and its digits, a zero only alone. -/
def readDecimal (s : List Char) : Option (Bool × List Char × List Char) :=
  let (negative, s) := readSign s
  match s with
  | '0' :: rest => some (negative, ['0'], rest)
  | _ => (readDigits Char.isDigit s).map fun (digits, rest) => (negative, digits, rest)

/-- The exponent of a number. -/
def readExponent (s : List Char) : Option (Int × List Char) :=
  match s with
  | c :: rest =>
    if c = 'e' ∨ c = 'E' then
      let (negative, rest) := readSign rest
      (readDigits Char.isDigit rest).map fun (digits, rest) =>
        let n : Int := Text.decimalValue digits
        (if negative then -n else n, rest)
    else none
  | [] => none

/-- The fraction of a number. -/
def readFraction : List Char → Option (List Char × List Char)
  | '.' :: rest => readDigits Char.isDigit rest
  | _ => none

/-- The text after a word. -/
def afterWord? (word : String) (s : List Char) : Option (List Char) :=
  if word.toList.isPrefixOf s then some (s.drop word.toList.length) else none

/-- An infinity or a NaN. -/
def readSpecial (s : List Char) : Option (Double × List Char) :=
  let (negative, s) := readSign s
  match afterWord? "inf" s, afterWord? "nan" s with
  | some rest, _ => some (Double.infinity negative, rest)
  | none, some rest => some (if negative then Double.nan.negate else Double.nan, rest)
  | none, none => none

/-- A floating point number. One that is beyond the greatest double is none. -/
def readDouble (s : List Char) : Option (Double × List Char) :=
  match readDecimal s with
  | none => readSpecial s
  | some (negative, whole, rest) =>
    let parts : Option (List Char × Int × List Char) :=
      match readExponent rest with
      | some (exponent, rest) => some ([], exponent, rest)
      | none => (readFraction rest).map fun (fraction, rest) =>
          match readExponent rest with
          | some (exponent, rest) => (fraction, exponent, rest)
          | none => (fraction, 0, rest)
    match parts with
    | none => readSpecial s
    | some (fraction, exponent, rest) =>
      let d := Double.ofDecimal negative (Text.decimalValue (whole ++ fraction))
        (exponent - fraction.length)
      if d = Double.infinity false then none else some (d, rest)

/-- The number of digits in a base. -/
def baseValue (base : Nat) (digits : List Char) : Nat :=
  digits.foldl (fun acc c => acc * base + (Text.hexDigit? c).getD 0) 0

/-- The integers of 64 bits with a sign. -/
def isSigned64 (n : Int) : Bool := -Nat.pow 2 63 ≤ n && n < Nat.pow 2 63

/-- An integer of 64 bits with a sign. -/
def readInteger (s : List Char) : Option (Int × List Char) := do
  let (n, rest) ← match s with
    | '0' :: 'x' :: rest =>
      (readDigits (fun c => (Text.hexDigit? c).isSome) rest).map fun (digits, rest) =>
        ((baseValue 16 digits : Int), rest)
    | '0' :: 'o' :: rest =>
      (readDigits (fun c => '0' ≤ c && c ≤ '7') rest).map fun (digits, rest) =>
        ((baseValue 8 digits : Int), rest)
    | '0' :: 'b' :: rest =>
      (readDigits (fun c => c == '0' || c == '1') rest).map fun (digits, rest) =>
        ((baseValue 2 digits : Int), rest)
    | _ => (readDecimal s).map fun (negative, digits, rest) =>
        let n : Int := Text.decimalValue digits
        (if negative then -n else n, rest)
  if isSigned64 n then some (n, rest) else none

/-- A number of exactly two digits. -/
def twoDigits : List Char → Option (Nat × List Char)
  | a :: b :: rest =>
    if a.isDigit && b.isDigit then some (Text.decimalValue [a, b], rest) else none
  | _ => none

/-- The days of a month. -/
def daysOf (year month : Nat) : Nat :=
  if month = 2 then if year % 4 = 0 ∧ (year % 100 ≠ 0 ∨ year % 400 = 0) then 29 else 28
  else if month = 4 ∨ month = 6 ∨ month = 9 ∨ month = 11 then 30
  else 31

/-- What follows a date. -/
def afterDate? (s : List Char) : Option (List Char) := do
  let (century, s) ← twoDigits s
  let (year, s) ← twoDigits s
  let '-' :: s := s | none
  let (month, s) ← twoDigits s
  let '-' :: s := s | none
  let (day, s) ← twoDigits s
  if 1 ≤ month ∧ month ≤ 12 ∧ 1 ≤ day ∧ day ≤ daysOf (century * 100 + year) month then some s
  else none

/-- What follows the fraction of a second. -/
def afterFraction (s : List Char) : List Char :=
  match s with
  | '.' :: rest =>
    match rest.span Char.isDigit with
    | ([], _) => s
    | (_, rest) => rest
  | _ => s

/-- What follows a time of day. -/
def afterTime? (s : List Char) : Option (List Char) := do
  let (hour, s) ← twoDigits s
  let ':' :: s := s | none
  let (minute, s) ← twoDigits s
  let ':' :: s := s | none
  let (second, s) ← twoDigits s
  if hour < 24 ∧ minute < 60 ∧ second ≤ 60 then some (afterFraction s) else none

/-- What follows an offset from universal time. -/
def afterOffset? (s : List Char) : Option (List Char) :=
  match s with
  | 'Z' :: rest => some rest
  | 'z' :: rest => some rest
  | c :: rest =>
    if c = '+' ∨ c = '-' then do
      let (hour, rest) ← twoDigits rest
      let ':' :: rest := rest | none
      let (minute, rest) ← twoDigits rest
      if hour < 24 ∧ minute < 60 then some rest else none
    else none
  | [] => none

/-- What follows a date, a time or both. -/
def afterMoment? (s : List Char) : Option (List Char) :=
  match afterDate? s with
  | none => afterTime? s
  | some rest =>
    match rest with
    | c :: time =>
      if c = 'T' ∨ c = 't' ∨ c = ' ' then
        match afterTime? time with
        | some rest => some ((afterOffset? rest).getD rest)
        | none => some (c :: time)
      else some (c :: time)
    | [] => some []

/-- A number, a date or a time. -/
def readNumber (s : List Char) : Option (Toml × List Char) :=
  match afterMoment? s with
  | some rest => some (.moment, rest)
  | none =>
    match readDouble s with
    | some (d, rest) => some (.double d, rest)
    | none => (readInteger s).map fun (n, rest) => (.integer n, rest)

end ContractToolkit.Toml
