import ContractToolkit.Abi.Fault
import ContractToolkit.Text.WhiteSpace

/-!
# Lists of components

A list of components is separated by the commas that stand outside all brackets;
round and square ones count alike. The words inside a component are separated
by white space outside all brackets. Brackets are counted here as far as they go;
a machine cuts the same pieces at octet positions as long as its counter lasts.
-/

namespace ContractToolkit.Abi

/-- Whether a character opens a bracket. -/
def isOpening (c : Char) : Bool := c == '(' || c == '['

/-- Whether a character closes a bracket. -/
def isClosing (c : Char) : Bool := c == ')' || c == ']'

/-- The pieces between the commas outside all brackets, the first piece being under way with the
characters `current` in reverse inside `depth` brackets; absent when brackets do not match. -/
def piecesFrom : (depth : Nat) → (current : List Char) → List Char → Option (List (List Char))
  | 0, current, [] => some [current.reverse]
  | _ + 1, _, [] => none
  | depth, current, c :: rest =>
    if isOpening c then piecesFrom (depth + 1) (c :: current) rest
    else if isClosing c then
      match depth with
      | 0 => none
      | depth + 1 => piecesFrom depth (c :: current) rest
    else if c = ',' ∧ depth = 0 then (piecesFrom 0 [] rest).map (current.reverse :: ·)
    else piecesFrom depth (c :: current) rest

/-- The components of a list, without white space around them. A blank list has none. -/
def components (s : List Char) : Except DescriptorFault (List (List Char)) :=
  match piecesFrom 0 [] s with
  | none => .error (.unbalancedParentheses (String.ofList s))
  | some pieces =>
    match pieces.map Text.trim with
    | [[]] => .ok []
    | parts =>
      if parts.any List.isEmpty then .error (.emptyComponent (String.ofList s)) else .ok parts

/-- The first word of a component inside `depth` brackets, more of them closed than opened being a
negative depth, and what follows it. -/
def firstWordFrom (depth : Int) : List Char → List Char × List Char
  | [] => ([], [])
  | c :: rest =>
    if isOpening c then
      let (word, after) := firstWordFrom (depth + 1) rest
      (c :: word, after)
    else if isClosing c then
      let (word, after) := firstWordFrom (depth - 1) rest
      (c :: word, after)
    else if Text.isBlank c ∧ depth = 0 then ([], c :: rest)
    else
      let (word, after) := firstWordFrom depth rest
      (c :: word, after)

/-- The first word of a component, a group in brackets being one word with what touches it, and what
follows it. -/
def firstWord (s : List Char) : List Char × List Char := firstWordFrom 0 s

/-- What stands before and after the last occurrence of a character. -/
def splitAtLast? (c : Char) : List Char → Option (List Char × List Char)
  | [] => none
  | x :: rest =>
    match splitAtLast? c rest with
    | some (before, after) => some (x :: before, after)
    | none => if x = c then some ([], rest) else none

end ContractToolkit.Abi
