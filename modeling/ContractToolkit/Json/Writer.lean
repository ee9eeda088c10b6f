import ContractToolkit.Json.Basic

/-!
# JSON values to text

Two layouts: compact, without any white space, and indented by two blanks a
level. Characters outside ASCII stand for themselves; control characters are
escaped.
-/

namespace ContractToolkit.Json

/-- One character inside a string. -/
def escapeChar (c : Char) : List Char :=
  if c = '"' then ['\\', '"']
  else if c = '\\' then ['\\', '\\']
  else if c = '\x08' then ['\\', 'b']
  else if c = '\x0c' then ['\\', 'f']
  else if c = '\n' then ['\\', 'n']
  else if c = '\r' then ['\\', 'r']
  else if c = '\t' then ['\\', 't']
  else if c < ' ' then
    ['\\', 'u', '0', '0', Nat.digitChar (c.toNat / 16), Nat.digitChar (c.toNat % 16)]
  else [c]

/-- A string with its quotes. -/
def stringChars (s : String) : List Char := '"' :: (s.toList.flatMap escapeChar ++ ['"'])

/-- A double; what is not finite has no number and is written as null. -/
def doubleChars (d : Double) : List Char :=
  if d.isFinite then d.interchange.toList else ['n', 'u', 'l', 'l']

/-- A value that holds no others. -/
def atomChars : Json → List Char
  | null => ['n', 'u', 'l', 'l']
  | bool true => ['t', 'r', 'u', 'e']
  | bool false => ['f', 'a', 'l', 's', 'e']
  | integer n => (Text.ofInt n).toList
  | double d => doubleChars d
  | string s => stringChars s
  | array _ => []
  | object _ => []

mutual

/-- A value without white space, in front of a text. -/
def compactOnto (after : List Char) : Json → List Char
  | array items => '[' :: itemsOnto (']' :: after) items
  | object fields => '\x7b' :: fieldsOnto ('\x7d' :: after) fields
  | atom => atomChars atom ++ after

/-- Items with commas between them, in front of a text. -/
def itemsOnto (after : List Char) : List Json → List Char
  | [] => after
  | [item] => compactOnto after item
  | item :: next :: rest => compactOnto (',' :: itemsOnto after (next :: rest)) item

/-- Fields with commas between them, in front of a text. -/
def fieldsOnto (after : List Char) : List (String × Json) → List Char
  | [] => after
  | [(key, value)] => stringChars key ++ ':' :: compactOnto after value
  | (key, value) :: next :: rest =>
    stringChars key ++ ':' :: compactOnto (',' :: fieldsOnto after (next :: rest)) value

end

/-- A value without white space. -/
def compact (j : Json) : String := String.ofList (compactOnto [] j)

/-- A line break and the blanks of a level, in front of a text. -/
def newLine (level : Nat) (after : List Char) : List Char :=
  '\n' :: (List.replicate (2 * level) ' ' ++ after)

mutual

/-- A value set out over lines, in front of a text. -/
def prettyOnto (level : Nat) (after : List Char) : Json → List Char
  | array [] => '[' :: ']' :: after
  | array (item :: rest) =>
    '[' :: prettyItems (level + 1) (newLine level (']' :: after)) (item :: rest)
  | object [] => '\x7b' :: '\x7d' :: after
  | object (field :: rest) =>
    '\x7b' :: prettyFields (level + 1) (newLine level ('\x7d' :: after)) (field :: rest)
  | atom => atomChars atom ++ after

/-- Items on lines of their own, in front of a text. -/
def prettyItems (level : Nat) (after : List Char) : List Json → List Char
  | [] => after
  | [item] => newLine level (prettyOnto level after item)
  | item :: next :: rest =>
    newLine level (prettyOnto level (',' :: prettyItems level after (next :: rest)) item)

/-- Fields on lines of their own, in front of a text. -/
def prettyFields (level : Nat) (after : List Char) : List (String × Json) → List Char
  | [] => after
  | [(key, value)] => newLine level (stringChars key ++ ':' :: ' ' :: prettyOnto level after value)
  | (key, value) :: next :: rest =>
    newLine level (stringChars key ++
      ':' :: ' ' :: prettyOnto level (',' :: prettyFields level after (next :: rest)) value)

end

/-- A value set out over lines, indented by two blanks a level. -/
def pretty (j : Json) : String := String.ofList (prettyOnto 0 [] j)

end ContractToolkit.Json
