import ContractToolkit.DomainName.Reader
import ContractToolkit.Url.Basic

/-!
# Machines in addresses

A machine is told by the name of a domain, by a number in four parts, or by a
number of eight groups in brackets. Where a scheme does not want a machine, its
name may be anything that does not look like another part of the address.
-/

namespace ContractToolkit.Url

/-- Why a text is no address. -/
inductive Fault where
  /-- There is no scheme. -/
  | noScheme
  /-- There is no machine where one is wanted. -/
  | noHost
  /-- The number of the service does not have 16 bits. -/
  | service
  /-- The machine is not the name of a domain. -/
  | domain
  /-- The name of the machine has a character that it may not have. -/
  | hostChar
  /-- The machine ends in a number, but is no machine number of four parts. -/
  | fourParts
  /-- The machine in brackets is no machine number. -/
  | bracketed
  deriving DecidableEq, Repr

/-- Report of a fault. -/
def Fault.message : Fault → String
  | noScheme => "relative URL without a base"
  | noHost => "empty host"
  | service => "invalid port number"
  | domain => "invalid international domain name"
  | hostChar => "invalid domain character"
  | fourParts => "invalid IPv4 address"
  | bracketed => "invalid IPv6 address"

/-- Whether digits are those of a base. -/
def areDigits (base : Nat) (s : List Char) : Bool :=
  s.all fun c => (Text.hexDigit? c).any fun d => d < base

/-- The number that digits write. -/
def digitsValue (base : Nat) (s : List Char) : Nat :=
  s.foldl (fun n c => n * base + (Text.hexDigit? c).getD 0) 0

/-- The number in a part of a machine number: hexadecimal after `0x`, octal after a zero, or
decimal. -/
def partNumber? (s : List Char) : Option Nat :=
  let (base, digits) := match s with
    | '0' :: 'x' :: rest => (16, rest)
    | '0' :: 'X' :: rest => (16, rest)
    | '0' :: c :: rest => (8, c :: rest)
    | s => (10, s)
  if s.isEmpty ∨ !areDigits base digits then none else some (digitsValue base digits)

/-- The parts of a machine between its points, without an empty one at the end. -/
def hostParts (s : List Char) : List (List Char) :=
  let parts := Text.piecesBetween '.' s
  if parts.length > 1 ∧ parts.getLast? = some [] then parts.dropLast else parts

/-- Whether the last part of a machine is a number. -/
def endsInNumber (s : List Char) : Bool :=
  match (hostParts s).getLast? with
  | some part => !part.isEmpty && (part.all Char.isDigit || (partNumber? part).isSome)
  | none => false

/-- The machine number in parts, of which the last may stand for several. -/
def fourParts? (s : List Char) : Option Nat := do
  let numbers ← (hostParts s).mapM partNumber?
  let last ← numbers.getLast?
  let before := numbers.dropLast
  if numbers.length ≤ 4 ∧ before.all (· < 256) ∧ last < Nat.pow 256 (4 - before.length) then
    return (before.foldl (fun n part => n * 256 + part) 0) * Nat.pow 256 (4 - before.length) + last
  else none

/-- Whether a text is a decimal part of a machine number in brackets. -/
def isPlainPart (s : List Char) : Bool :=
  !s.isEmpty && s.all Char.isDigit && (s.length == 1 || s.head? != some '0') &&
    Text.decimalValue s < 256

/-- The groups that a piece of a machine number stands for: the last may have four decimal parts. -/
def pieceGroups? (isLast : Bool) (s : List Char) : Option (List Nat) :=
  if !s.isEmpty ∧ s.length ≤ 4 ∧ areDigits 16 s then some [digitsValue 16 s]
  else if !isLast then none
  else match Text.piecesBetween '.' s with
    | [a, b, c, d] =>
      if [a, b, c, d].all isPlainPart then
        some [Text.decimalValue a * 256 + Text.decimalValue b,
          Text.decimalValue c * 256 + Text.decimalValue d]
      else none
    | _ => none

/-- The groups between colons. -/
def groups? (isLast : Bool) (s : List Char) : Option (List Nat) :=
  if s.isEmpty then some []
  else do
    let pieces := Text.piecesBetween ':' s
    let before ← pieces.dropLast.mapM (pieceGroups? false)
    let last ← pieceGroups? isLast (pieces.getLast?.getD [])
    return before.flatten ++ last

/-- A text split at its first two colons in a row. -/
def splitGap? : List Char → Option (List Char × List Char)
  | ':' :: ':' :: rest => some ([], rest)
  | c :: rest => (splitGap? rest).map fun (before, after) => (c :: before, after)
  | [] => none

/-- The machine number in eight groups, where two colons stand for any missing ones. -/
def eightGroups? (s : List Char) : Option (List Nat) := do
  match splitGap? s with
  | none =>
    let groups ← groups? true s
    if groups.length = 8 then return groups else none
  | some (before, after) =>
    let before ← groups? false before
    let after ← groups? true after
    if before.length + after.length < 8 then
      return before ++ List.replicate (8 - before.length - after.length) 0 ++ after
    else none

/-- The machine of a name or a number, for schemes that want one. -/
def domainHost (s : List Char) : Except Fault Host := do
  let some name := meaning? (String.ofList s) | throw .domain
  let some name := DomainName.ascii? name.toList | throw .domain
  if name.isEmpty then throw .noHost
  if !endsInNumber name then return .name (String.ofList name)
  match fourParts? name with
  | some number => return .fourParts number
  | none => throw .fourParts

/-- Characters that end or separate parts of an address and thus do not stand in a machine. -/
def separators : List Char := "\x00 #/:<>?@[\\]^|".toList

/-- The machine of a name, for schemes that do not want one. -/
def freeHost (s : List Char) : Except Fault Host :=
  if s.any separators.contains then .error .hostChar
  else .ok (.name (String.ofList (percentEncoded isHidden s)))

/-- The machine that a text names. -/
def Host.ofChars (kind : Kind) (s : List Char) : Except Fault Host :=
  match s with
  | '[' :: rest =>
    match if rest.getLast? = some ']' then eightGroups? rest.dropLast else none with
    | some groups => .ok (.eightGroups groups)
    | none => .error .bracketed
  | s => if kind = .free then freeHost s else domainHost s

end ContractToolkit.Url
