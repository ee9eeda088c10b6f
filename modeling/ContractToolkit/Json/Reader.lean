import ContractToolkit.Json.Number

/-!
# JSON text to values

Reading has two steps. The first recovers the nesting of a text; a text with an
escape for half of a surrogate pair is read as a string without a value, and
numbers stay as they are written. The second gives values, and refuses what has
none: such strings, numbers beyond the doubles, and nesting over 127 levels.
Parts of a document that are skipped only need the first step.
-/

namespace ContractToolkit

/-- A JSON document as it is written. -/
inductive JsonDraft where
  /-- The absent value. -/
  | null
  /-- A truth value. -/
  | bool (b : Bool)
  /-- A number before it is given a value. -/
  | number (n : Json.NumberText)
  /-- A text, absent when its escapes stand for no characters. -/
  | string (s : Option String)
  /-- A sequence. -/
  | array (items : List JsonDraft)
  /-- Fields in the order of the text. -/
  | object (fields : List (Option String × JsonDraft))

namespace JsonDraft

/-- White space of JSON. -/
def isSpace (c : Char) : Bool := c == ' ' || c == '\n' || c == '\t' || c == '\r'

/-- A text without its leading white space. -/
def skipSpace (s : List Char) : List Char := s.dropWhile isSpace

/-- The number of four hexadecimal digits. -/
def fourDigits (a b c d : Char) : Option Nat := Text.hexValue? [a, b, c, d]

/-- A character code that is the first half of a surrogate pair. -/
def isHighHalf (n : Nat) : Bool := 0xD800 ≤ n && n ≤ 0xDBFF

/-- A character code that is the second half of a surrogate pair. -/
def isLowHalf (n : Nat) : Bool := 0xDC00 ≤ n && n ≤ 0xDFFF

/-- The character of a one-letter escape. -/
def simpleEscape : Char → Option Char
  | '"' => some '"'
  | '\\' => some '\\'
  | '/' => some '/'
  | 'b' => some '\x08'
  | 'f' => some '\x0c'
  | 'n' => some '\n'
  | 'r' => some '\r'
  | 't' => some '\t'
  | _ => none

/-- One unit of a string: a character, or a half of a surrogate pair. -/
abbrev StringUnit := Char ⊕ Nat

/-- The units of a string after its opening quote, and what follows the closing one. -/
def stringUnits : List Char → Option (List StringUnit × List Char)
  | [] => none
  | '"' :: rest => some ([], rest)
  | '\\' :: 'u' :: a :: b :: c :: d :: rest => do
    let n ← fourDigits a b c d
    let (units, rest) ← stringUnits rest
    let unit : StringUnit :=
      if isHighHalf n || isLowHalf n then .inr n else .inl (Char.ofNat n)
    return (unit :: units, rest)
  | '\\' :: c :: rest => do
    let c ← simpleEscape c
    let (units, rest) ← stringUnits rest
    return (.inl c :: units, rest)
  | c :: rest => do
    guard (' ' ≤ c)
    let (units, rest) ← stringUnits rest
    return (.inl c :: units, rest)

/-- The characters of units, if every half has its other half right behind it. -/
def joinUnits : List StringUnit → Option (List Char)
  | [] => some []
  | .inl c :: rest => (joinUnits rest).map (c :: ·)
  | .inr high :: .inr low :: rest =>
    if isHighHalf high && isLowHalf low then
      let n := 0x10000 + (high - 0xD800) * 0x400 + (low - 0xDC00)
      (joinUnits rest).map (Char.ofNat n :: ·)
    else none
  | .inr _ :: _ => none

/-- The string after its opening quote, and what follows it. -/
def readString (s : List Char) : Option (Option String × List Char) := do
  let (units, rest) ← stringUnits s
  return ((joinUnits units).map String.ofList, rest)

/-- What follows a word at the start of a text. -/
def afterWord (word : List Char) (s : List Char) : Option (List Char) :=
  if word.isPrefixOf s then some (s.drop word.length) else none

mutual

/-- The value at the start of a text and what follows it. -/
def readValue : (fuel : Nat) → List Char → Option (JsonDraft × List Char)
  | 0, _ => none
  | fuel + 1, s =>
    match skipSpace s with
    | [] => none
    | '"' :: rest => (readString rest).map fun (text, rest) => (.string text, rest)
    | '[' :: rest =>
      match skipSpace rest with
      | ']' :: rest => some (.array [], rest)
      | rest => (readItems fuel rest).map fun (items, rest) => (.array items, rest)
    | '\x7b' :: rest =>
      match skipSpace rest with
      | '\x7d' :: rest => some (.object [], rest)
      | rest => (readFields fuel rest).map fun (fields, rest) => (.object fields, rest)
    | 'n' :: rest => (afterWord ['u', 'l', 'l'] rest).map fun rest => (.null, rest)
    | 't' :: rest => (afterWord ['r', 'u', 'e'] rest).map fun rest => (.bool true, rest)
    | 'f' :: rest => (afterWord ['a', 'l', 's', 'e'] rest).map fun rest => (.bool false, rest)
    | s => (Json.readNumber s).map fun (n, rest) => (.number n, rest)

/-- The items of a sequence from one on, up to the closing bracket, and what follows it. -/
def readItems : (fuel : Nat) → List Char → Option (List JsonDraft × List Char)
  | 0, _ => none
  | fuel + 1, s => do
    let (item, rest) ← readValue fuel s
    match skipSpace rest with
    | ',' :: rest =>
      let (items, rest) ← readItems fuel rest
      return (item :: items, rest)
    | ']' :: rest => return ([item], rest)
    | _ => none

/-- The fields of an object from one on, up to the closing brace, and what follows it. -/
def readFields : (fuel : Nat) → List Char → Option (List (Option String × JsonDraft) × List Char)
  | 0, _ => none
  | fuel + 1, s => do
    let '"' :: rest := skipSpace s | none
    let (key, rest) ← readString rest
    let ':' :: rest := skipSpace rest | none
    let (value, rest) ← readValue fuel rest
    match skipSpace rest with
    | ',' :: rest =>
      let (fields, rest) ← readFields fuel rest
      return ((key, value) :: fields, rest)
    | '\x7d' :: rest => return ([(key, value)], rest)
    | _ => none

end

/-- The document that a text holds, with nothing but white space around it. -/
def ofChars (s : List Char) : Option JsonDraft := do
  let (value, rest) ← readValue (2 * s.length + 2) s
  guard (skipSpace rest).isEmpty
  return value

/-- The document that a text holds. -/
def ofText (s : String) : Option JsonDraft := ofChars s.toList

mutual

/-- The value of a document with room for so many levels of nesting. -/
def value? (room : Nat) : JsonDraft → Option Json
  | null => some .null
  | bool b => some (.bool b)
  | number n => n.value?
  | string s => s.map .string
  | array items =>
    match room with
    | 0 => none
    | room + 1 => (values? room items).map .array
  | object fields =>
    match room with
    | 0 => none
    | room + 1 => (fieldValues? room fields).map .ofFields

/-- The values of documents. -/
def values? (room : Nat) : List JsonDraft → Option (List Json)
  | [] => some []
  | d :: rest => do
    let value ← value? room d
    let values ← values? room rest
    return value :: values

/-- The fields of an object, each of which must have a key. -/
def fieldValues? (room : Nat) : List (Option String × JsonDraft) → Option (List (String × Json))
  | [] => some []
  | (key, d) :: rest => do
    let key ← key
    let value ← value? room d
    let values ← fieldValues? room rest
    return (key, value) :: values

end

end JsonDraft

/-- Levels of nesting that a free-form value may have. -/
def Json.maxDepth : Nat := 127

/-- The free-form value that a text holds. -/
def Json.ofText (s : String) : Option Json :=
  (JsonDraft.ofText s).bind (JsonDraft.value? Json.maxDepth)

end ContractToolkit
