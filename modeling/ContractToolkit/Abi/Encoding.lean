import ContractToolkit.Error
import ContractToolkit.Abi.Ty.Grammar

/-!
# Encoding values

A list of values is encoded as a head followed by a tail. Static values stand in
the head; for a dynamic value the head holds one word, the offset of its own
encoding in the tail, counted from the start of the head. Sequences and tuples
are laid out in the same way inside their own encoding. Values that do not fit
their declared types are refused before anything is laid out.
-/

namespace ContractToolkit.Abi

namespace Value

/-- Why an unsigned integer cannot be encoded. -/
def uintFault? (w : Word) (bits : Nat) : Option EncodeFault :=
  if (Ty.widthFault? bits).isSome then some (.integerWidth bits)
  else if Nat.pow 2 bits ≤ w.toNat then some (.uintRange w bits)
  else none

/-- Whether a word is a two's complement number of so many bits. -/
def intFits (w : Word) (bits : Nat) : Bool :=
  256 ≤ bits || (-(Nat.pow 2 (bits - 1) : Int) ≤ w.toInt && w.toInt < Nat.pow 2 (bits - 1))

/-- The bound of a signed integer as a word: one, moved to the place of the sign. -/
def signBound (bits : Nat) : Word := 1#256 <<< (bits - 1)

/-- Why a signed integer cannot be encoded. -/
def intFault? (w : Word) (bits : Nat) : Option EncodeFault :=
  if (Ty.widthFault? bits).isSome then some (.integerWidth bits)
  else if intFits w bits then none
  else some (.intRange w bits)

mutual

/-- Why a value cannot be encoded: the first fault from the outside in and from left to right. -/
def fault? : Value → Option EncodeFault
  | uint w bits => uintFault? w bits
  | int w bits => intFault? w bits
  | fixedBytes octets =>
    if octets.isEmpty ∨ wordSize < octets.length then some (.fixedBytesLength octets.length)
    else none
  | array elem items => (elem.fault?.map .elementType).or (itemsFault? elem items)
  | fixedArray elem items =>
    if items.isEmpty then some .emptyFixedArray
    else (elem.fault?.map .elementType).or (itemsFault? elem items)
  | tuple items => faults? items
  | address _ => none
  | bool _ => none
  | bytes _ => none
  | string _ => none

/-- Why the elements of a sequence cannot be encoded: each must have the declared type. -/
def itemsFault? (elem : Ty) : List Value → Option EncodeFault
  | [] => none
  | v :: rest =>
    if v.ty = elem then (fault? v).or (itemsFault? elem rest)
    else some (.elementMismatch v.ty elem)

/-- The first fault of a list of values. -/
def faults? : List Value → Option EncodeFault
  | [] => none
  | v :: rest => (fault? v).or (faults? rest)

end

mutual

/-- Whether a value is encoded behind an offset. -/
def isDynamic : Value → Bool
  | bytes _ => true
  | string _ => true
  | array _ _ => true
  | fixedArray elem _ => elem.isDynamic
  | tuple items => anyDynamic items
  | address _ => false
  | uint _ _ => false
  | int _ _ => false
  | bool _ => false
  | fixedBytes _ => false

/-- Whether a value of a list is dynamic. -/
def anyDynamic : List Value → Bool
  | [] => false
  | v :: rest => isDynamic v || anyDynamic rest

end

end Value

/-- A size as a word. -/
def sizeWord (n : Nat) : Bytes := Bytes.ofNat wordSize n

/-- Octets filled up with zeros at the end to a number of octets. -/
def padTo (length : Nat) (octets : Bytes) : Bytes :=
  octets ++ Bytes.zeros (length - octets.length)

/-- A byte string behind its length, filled up to whole words. -/
def packBytes (octets : Bytes) : Bytes :=
  sizeWord octets.length ++ padTo ((octets.length + 31) / wordSize * wordSize) octets

/-- The encoding of a value in a sequence, and whether it stands behind an offset. -/
structure Part where
  /-- Whether the encoding stands in the tail. -/
  dynamic : Bool
  /-- The encoding. -/
  octets : Bytes
  deriving DecidableEq, Repr

/-- Octets that a part takes in the head. -/
def Part.headLength (p : Part) : Nat := if p.dynamic then wordSize else p.octets.length

/-- Octets that parts take in the head. -/
def headLength (parts : List Part) : Nat := (parts.map Part.headLength).foldr (· + ·) 0

/-- The head of parts whose tail begins at an offset. -/
def heads (offset : Nat) : List Part → Bytes
  | [] => []
  | p :: rest =>
    if p.dynamic then sizeWord offset ++ heads (offset + p.octets.length) rest
    else p.octets ++ heads offset rest

/-- The tail of parts. -/
def tails (parts : List Part) : Bytes :=
  parts.flatMap fun p => if p.dynamic then p.octets else []

/-- Parts laid out as a head and a tail. -/
def layOut (parts : List Part) : Bytes := heads (headLength parts) parts ++ tails parts

namespace Value

mutual

/-- The encoding of a value on its own. -/
def octets : Value → Bytes
  | address a => Bytes.ofNat wordSize a.toNat
  | uint w _ => w.bytes
  | int w _ => w.bytes
  | bool b => sizeWord b.toNat
  | fixedBytes octets => padTo wordSize octets
  | bytes octets => packBytes octets
  | string s => packBytes (Text.utf8 s)
  | array _ items => sizeWord items.length ++ layOut (parts items)
  | fixedArray _ items => layOut (parts items)
  | tuple items => layOut (parts items)

/-- The encodings of values in a sequence. -/
def parts : List Value → List Part
  | [] => []
  | v :: rest => ⟨isDynamic v, octets v⟩ :: parts rest

end

end Value

/-- The encoding of a list of values. -/
def encode (values : List Value) : Outcome Bytes :=
  match Value.faults? values with
  | some fault => .error (.encode fault)
  | none => .ok (layOut (Value.parts values))

/-- The encoding of one value as a list. -/
def encodeSingle (value : Value) : Outcome Bytes := encode [value]

/-- The first argument that does not have its declared type, counted from an index. -/
def argumentFault? (index : Nat) : List Ty → List Value → Option EncodeFault
  | t :: types, v :: values =>
    if v.ty = t then argumentFault? (index + 1) types values
    else some (.argumentType index v.ty t)
  | _, _ => none

/-- The encoding of arguments for declared types, each of which they must have exactly. -/
def encodeParams (types : List Ty) (values : List Value) : Outcome Bytes :=
  if types.length ≠ values.length then
    .error (.encode (.argumentCount types.length values.length))
  else match argumentFault? 0 types values with
    | some fault => .error (.encode fault)
    | none => encode values

end ContractToolkit.Abi
