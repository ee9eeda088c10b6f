import ContractToolkit.Error
import ContractToolkit.Abi.Ty.Grammar
import ContractToolkit.Abi.Signature
import ContractToolkit.Text.Positions

/-!
# Written declarations

The parts of a declaration such as `event Paid(address indexed to, uint256)
anonymous`: a name, the text of its parameters, and what follows them. The
keyword in front may be left out, and is a name itself where the parameters or
white space do not follow it. The parts are what stands between characters; the
machine cuts them at octet positions.
-/

namespace ContractToolkit.Interface

open Abi Text

/-- A declaration in parts. -/
structure Declaration where
  /-- The text before the parameters. -/
  name : List Char
  /-- The text between the outer parentheses. -/
  params : List Char
  /-- The text behind them. -/
  rest : List Char
  deriving DecidableEq, Repr

/-- What stands before the parenthesis that closes the one before the text, `depth` more of them
being open, and what follows it. -/
def untilClosing? : (depth : Nat) → List Char → Option (List Char × List Char)
  | _, [] => none
  | depth, c :: rest =>
    if c = '(' then (untilClosing? (depth + 1) rest).map fun (inside, after) => (c :: inside, after)
    else if c = ')' then
      match depth with
      | 0 => some ([], rest)
      | depth + 1 =>
        (untilClosing? depth rest).map fun (inside, after) => (c :: inside, after)
    else (untilClosing? depth rest).map fun (inside, after) => (c :: inside, after)

/-- A trimmed text without its keyword, if parentheses or white space follow the keyword. -/
def withoutKeyword (keyword : String) (s : List Char) : List Char :=
  match Ty.after? keyword s with
  | some (c :: rest) => if c = '(' ∨ Text.isBlank c then Text.trimStart (c :: rest) else s
  | _ => s

/-- The parts of a declaration with a keyword. -/
def Declaration.ofChars (keyword : String) (s : List Char) : Except DescriptorFault Declaration :=
  let text := withoutKeyword keyword (Text.trim s)
  match text.span (· != '(') with
  | (_, []) => .error (.missingParameters (String.ofList s))
  | (name, _ :: inside) =>
    match untilClosing? 0 inside with
    | none => .error (.unbalancedParentheses (String.ofList s))
    | some (params, rest) => .ok ⟨Text.trim name, params, Text.trim rest⟩

/-- The position of the parenthesis that closes the one at `opened`, among characters that have
their positions counted from there; `depth` parentheses are open. -/
def closingFrom (opened : Nat) : (depth : Nat) → List (Nat × Char) → Except Slip (Option Nat)
  | _, [] => .ok none
  | depth, (position, c) :: rest =>
    if c = '(' then do
      let deeper ← plus depth 1
      closingFrom opened deeper rest
    else if c = ')' then do
      let left ← minus depth 1
      if left = 0 then
        let closed ← plus opened position
        return some closed
      else closingFrom opened left rest
    else closingFrom opened depth rest

/-- The position of the parenthesis that closes the one at a position. -/
def closingPosition (text : List Char) (opened : Nat) : Except Slip (Option Nat) := do
  let inside ← slice text opened (octetCount text)
  closingFrom opened 0 (positioned 0 inside)

/-- The parts of a declaration, cut at positions. -/
def Declaration.cut (keyword : String) (s : List Char) :
    Except Slip (Except DescriptorFault Declaration) := do
  let text := withoutKeyword keyword (trim s)
  match positionOf? '(' text with
  | none => return .error (.missingParameters (String.ofList s))
  | some opened =>
    match ← closingPosition text opened with
    | none => return .error (.unbalancedParentheses (String.ofList s))
    | some closed =>
      let name ← slice text 0 opened
      let params ← slice text (← plus opened 1) closed
      let rest ← slice text (← plus closed 1) (octetCount text)
      return .ok ⟨trim name, params, trim rest⟩

/-- A parameter with its name, which may be empty. -/
structure Param where
  /-- The name. -/
  name : String
  /-- The type. -/
  ty : Ty
  deriving DecidableEq

/-- A parameter of an event. -/
structure EventParam where
  /-- The name. -/
  name : String
  /-- The type. -/
  ty : Ty
  /-- Whether it is logged as a topic. -/
  indexed : Bool
  deriving DecidableEq

/-- An indexed parameter without its mark. -/
def EventParam.plain (p : EventParam) : Param := ⟨p.name, p.ty⟩

/-- Words that say where a parameter is kept; they do not count. -/
def isLocation (word : List Char) : Bool :=
  word = "memory".toList || word = "calldata".toList || word = "storage".toList ||
    word = "payable".toList

/-- The mark and the name among the words behind the type of a parameter. -/
def paramWords (component : List Char) (indexed : Bool) (name : Option (List Char)) :
    List (List Char) → Except DescriptorFault (Bool × List Char)
  | [] => .ok (indexed, name.getD [])
  | word :: rest =>
    if word = "indexed".toList then paramWords component true name rest
    else if isLocation word then paramWords component indexed name rest
    else match name with
      | none => paramWords component indexed (some word) rest
      | some _ =>
        .error (.unexpectedToken (String.ofList word) (String.ofList component))

/-- One parameter: a type, then its mark, location and name in any order. -/
def EventParam.ofChars (component : List Char) : Except DescriptorFault EventParam := do
  let (type, after) := firstWord component
  let ty ← Ty.ofChars type
  let (indexed, name) ← paramWords component false none (Text.words after)
  return ⟨String.ofList name, ty, indexed⟩

/-- The parameters of a list. -/
def paramList (s : List Char) : Except DescriptorFault (List EventParam) := do
  let parts ← components (Text.trim s)
  parts.mapM EventParam.ofChars

/-- Whether a character may begin an identifier. -/
def isNameStart (c : Char) : Bool := c.isAlpha || c == '_' || c == '$'

/-- Whether a character may stand in an identifier. -/
def isNamePart (c : Char) : Bool := c.isAlphanum || c == '_' || c == '$'

/-- Whether a text is an identifier. -/
def isIdentifier : List Char → Bool
  | [] => false
  | c :: rest => isNameStart c && rest.all isNamePart

/-- Whether a declared name is an identifier, with the fault when it is not. -/
def checkName (name : String) : Except DescriptorFault Unit :=
  if isIdentifier name.toList then .ok () else .error (.identifier name)

/-- The text of a parameter. -/
def Param.text (p : Param) : String :=
  if p.name.isEmpty then p.ty.canonical else p.ty.canonical ++ " " ++ p.name

/-- The text of parameters. -/
def paramsText (ps : List Param) : String := ", ".intercalate (ps.map Param.text)

/-- The text of a parameter of an event. -/
def EventParam.text (p : EventParam) : String :=
  p.ty.canonical ++ (if p.indexed then " indexed" else "") ++
    (if p.name.isEmpty then "" else " " ++ p.name)

/-- What stands before the first occurrence of a word and after it. -/
def splitAtWord? (word : List Char) : List Char → Option (List Char × List Char)
  | [] => if word.isEmpty then some ([], []) else none
  | c :: rest =>
    if word.isPrefixOf (c :: rest) then some ([], (c :: rest).drop word.length)
    else (splitAtWord? word rest).map fun (before, after) => (c :: before, after)

end ContractToolkit.Interface
