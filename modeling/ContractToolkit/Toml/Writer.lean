import ContractToolkit.Decimal.Layout

/-!
# TOML values to text

A text is written in the first of these spellings that can hold it without
escapes: on one line in double quotes, on one line in single quotes, over lines
in double quotes, over lines in single quotes. Where none can, it is written in
double quotes with escapes, over lines if it has a line break. Whole numbers are
limited to 64 bits with a sign.
-/

namespace ContractToolkit.Toml

/-- The length of the longest run of a character, with one of length `current` under way. -/
def longestRun (c : Char) (current : Nat) : List Char → Nat
  | [] => current
  | x :: rest =>
    if x = c then longestRun c (current + 1) rest else max current (longestRun c 0 rest)

/-- A control character that only an escape can stand for. -/
def needsEscape (c : Char) : Bool := (c < ' ' && c != '\t' && c != '\n') || c == '\x7f'

/-- One character inside double quotes. -/
def escapeChar (overLines : Bool) (c : Char) : List Char :=
  if c = '\x08' then ['\\', 'b']
  else if c = '\t' then ['\\', 't']
  else if c = '\n' then if overLines then ['\n'] else ['\\', 'n']
  else if c = '\x0c' then ['\\', 'f']
  else if c = '\r' then ['\\', 'r']
  else if c = '\\' then ['\\', '\\']
  else if needsEscape c then
    ['\\', 'u', '0', '0', (Nat.digitChar (c.toNat / 16)).toUpper,
      (Nat.digitChar (c.toNat % 16)).toUpper]
  else [c]

/-- The characters inside double quotes. So many quotes in a row may stand for themselves; `seen` of
them do already. -/
def escapeText (overLines : Bool) (allowed seen : Nat) : List Char → List Char
  | [] => []
  | '"' :: rest =>
    if seen < allowed then '"' :: escapeText overLines allowed (seen + 1) rest
    else '\\' :: '"' :: escapeText overLines allowed 0 rest
  | c :: rest => escapeChar overLines c ++ escapeText overLines allowed 0 rest

/-- A line break behind opening quotes, if the text has one itself. -/
def openingBreak (s : List Char) : List Char := if s.contains '\n' then ['\n'] else []

/-- A text on one line in double quotes. -/
def basicChars (s : List Char) : List Char := '"' :: (escapeText false 0 0 s ++ ['"'])

/-- A text over lines in double quotes. -/
def longBasicChars (s : List Char) : List Char :=
  ['"', '"', '"'] ++ openingBreak s ++ escapeText true 2 0 s ++ ['"', '"', '"']

/-- A text on one line in single quotes. -/
def literalChars (s : List Char) : List Char := '\'' :: (s ++ ['\''])

/-- A text over lines in single quotes. -/
def longLiteralChars (s : List Char) : List Char :=
  ['\'', '\'', '\''] ++ openingBreak s ++ s ++ ['\'', '\'', '\'']

/-- A text in the spelling that suits it. -/
def textChars (s : List Char) : List Char :=
  let singles := longestRun '\'' 0 s
  let doubles := longestRun '"' 0 s
  let control := s.any needsEscape
  let backslash := s.contains '\\'
  let hasBreak := s.contains '\n'
  if !control && !backslash && doubles = 0 && !hasBreak then basicChars s
  else if !control && singles = 0 && !hasBreak then literalChars s
  else if !control && !backslash && doubles ≤ 2 then longBasicChars s
  else if !control && singles ≤ 2 then longLiteralChars s
  else if hasBreak then longBasicChars s
  else basicChars s

/-- A text. -/
def writeText (s : String) : String := String.ofList (textChars s.toList)

/-- A truth value. -/
def writeBool (b : Bool) : String := if b then "true" else "false"

/-- A whole number, if a document can hold it. -/
def writeSize? (n : Nat) : Option String := if n < Nat.pow 2 63 then some (Text.ofNat n) else none

/-- Any other number. -/
def writeDouble (d : Double) : String := d.setting

end ContractToolkit.Toml
