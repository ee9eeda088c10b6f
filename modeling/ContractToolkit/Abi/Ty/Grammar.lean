import ContractToolkit.Abi.Components

/-!
# The grammar of types

Which types a contract can declare, and how a type is read from text: array
suffixes from the right, tuples by their components, each of which may carry a
name, and elementary types by their names.
-/

namespace ContractToolkit.Abi.Ty

/-- Why an integer of so many bits cannot be declared. -/
def widthFault? (bits : Nat) : Option DescriptorFault :=
  if bits = 0 ∨ 256 < bits ∨ bits % 8 ≠ 0 then some (.integerWidth bits) else none

mutual

/-- Why a type cannot be declared: the first fault from the outside in and from left to right. -/
def fault? : Ty → Option DescriptorFault
  | uint bits => widthFault? bits
  | int bits => widthFault? bits
  | fixedBytes size => if size = 0 ∨ wordSize < size then some (.bytesSize size) else none
  | array elem => fault? elem
  | fixedArray elem length => if length = 0 then some .emptyFixedArray else fault? elem
  | tuple fields => faults? fields
  | address => none
  | bool => none
  | bytes => none
  | string => none

/-- The first fault of a list of types. -/
def faults? : List Ty → Option DescriptorFault
  | [] => none
  | t :: rest => (fault? t).or (faults? rest)

end

/-- Whether a type can be declared, with the fault when it cannot. -/
def check (t : Ty) : Except DescriptorFault Unit :=
  match t.fault? with
  | some fault => .error fault
  | none => .ok ()

/-- The text after a word, if it begins with it. -/
def after? (word : String) (s : List Char) : Option (List Char) :=
  if word.toList.isPrefixOf s then some (s.drop word.toList.length) else none

/-- The text between the parentheses of a tuple. -/
def tupleBody? (s : List Char) : Option (List Char) :=
  match (after? "tuple" s).getD s with
  | '(' :: rest => if rest.getLast? = some ')' then some rest.dropLast else none
  | _ => none

/-- The number behind the name of a sized type. -/
def sized? (name : String) (s : List Char) : Option (Except DescriptorFault Nat) :=
  match after? name s with
  | none => none
  | some digits =>
    if Text.isDecimal digits then
      match Text.size? digits with
      | some n => some (.ok n)
      | none => some (.error (.sizeInType (String.ofList s)))
    else none

/-- The elementary type of a name. The type `function` is an account followed by a selector. -/
def elementary (s : List Char) : Except DescriptorFault Ty :=
  if s = "address".toList then .ok address
  else if s = "bool".toList then .ok bool
  else if s = "string".toList then .ok string
  else if s = "bytes".toList then .ok bytes
  else if s = "uint".toList then .ok (uint 256)
  else if s = "int".toList then .ok (int 256)
  else if s = "function".toList then .ok (fixedBytes 24)
  else match sized? "uint" s, sized? "int" s, sized? "bytes" s with
    | some bits, _, _ => bits.map uint
    | none, some bits, _ => bits.map int
    | none, none, some size => size.map fixedBytes
    | none, none, none => .error (.unknownType (String.ofList s))

/-- The type of a trimmed text, with fuel for its nesting. -/
def readWith : (fuel : Nat) → List Char → Except DescriptorFault Ty
  | 0, s => .error (.unknownType (String.ofList s))
  | fuel + 1, s =>
    if s.isEmpty then .error .emptyType
    else if s.getLast? = some ']' then
      match splitAtLast? '[' s.dropLast with
      | none => .error (.unbalancedBrackets (String.ofList s))
      | some (before, inside) => do
        let elem ← readWith fuel (Text.trimEnd before)
        let length := Text.trim inside
        if length.isEmpty then .ok (array elem)
        else match Text.size? length with
          | some n => .ok (fixedArray elem n)
          | none => .error (.arrayLength (String.ofList length) (String.ofList s))
    else match tupleBody? s with
      | some body => do
        let parts ← components body
        let fields ← parts.mapM fun part => readWith fuel (firstWord part).1
        .ok (tuple fields)
      | none => elementary s

/-- The type of a trimmed text; it need not be one that a contract can declare. -/
def read (s : List Char) : Except DescriptorFault Ty := readWith (s.length + 1) s

/-- The type that a text declares. -/
def ofChars (s : List Char) : Except DescriptorFault Ty := do
  let t ← read (Text.trim s)
  t.check
  return t

/-- The type that a text declares. -/
def ofText (s : String) : Except DescriptorFault Ty := ofChars s.toList

end ContractToolkit.Abi.Ty
