import ContractToolkit.Abi.Encoding

/-!
# Decoding values

Values are read from octets by their types. Offsets and lengths are taken from
the octets, so each of them is held against the end of the data, and paddings,
sign extensions and truth values must be exact; the heads need not be in any
order and octets that no head points to are passed over. Positions are sizes:
the few sums and parts that nothing checks trap when they leave their range.
-/

namespace ContractToolkit.Abi

/-- The sum of two sizes where nothing checks it. -/
def addTrapping (a b : Nat) : Outcome Nat :=
  match Machine.add? a b with
  | some c => .ok c
  | none => .error .trap

/-- The octets from a position on, where nothing checks that there are so many. -/
def sliceTrapping (data : Bytes) (start length : Nat) : Outcome Bytes :=
  if start + length ≤ data.length then .ok ((data.drop start).take length) else .error .trap

/-- The 32 octets at a position. -/
def wordAt (data : Bytes) (position : Nat) : Outcome Bytes :=
  match (Machine.add? position wordSize).filter (· ≤ data.length) with
  | some _ => sliceTrapping data position wordSize
  | none => .error (.decode (.wordOutside position data.length))

/-- The size in the word at a position. -/
def sizeAt (data : Bytes) (position : Nat) : Outcome Nat := do
  let w := Word.ofBytes (← wordAt data position)
  if w.toNat < Machine.sizeLimit then return w.toNat
  else .error (.decode (.sizeRange w position))

/-- The byte string behind its length at a position. -/
def packedAt (data : Bytes) (position : Nat) : Outcome Bytes := do
  let length ← sizeAt data position
  let start ← addTrapping position wordSize
  match (Machine.add? start length).filter (· ≤ data.length) with
  | some _ => sliceTrapping data start length
  | none => .error (.decode (.bytesOutside length position data.length))

/-- Whether so many elements of a type can begin at a position: each takes at least its head, and
one octet where the head takes none. -/
def checkElementCount (elem : Ty) (count : Nat) (data : Bytes) (start : Nat) : Outcome Unit :=
  let room := (elem.headSize.bind fun size => Machine.mul? count (max size 1)).bind fun n =>
    Machine.add? n start
  match room.filter (· ≤ data.length) with
  | some _ => .ok ()
  | none => .error (.decode (.elementCount count elem start data.length))

/-- The account in a word at a position. -/
def addressAt (data : Bytes) (position : Nat) : Outcome Value := do
  let octets ← wordAt data position
  let padding ← sliceTrapping octets 0 12
  if padding.any (· != 0) then .error (.decode (.addressPadding position))
  else do
    let account ← sliceTrapping octets 12 20
    return .address (Address.ofBytes account)

/-- The unsigned integer in a word at a position. -/
def uintAt (bits : Nat) (data : Bytes) (position : Nat) : Outcome Value := do
  let w := Word.ofBytes (← wordAt data position)
  if Nat.pow 2 bits ≤ w.toNat then .error (.decode (.uintRange w position bits))
  else return .uint w bits

/-- The signed integer in a word at a position. A width of zero has no sign bit to extend. -/
def intAt (bits : Nat) (data : Bytes) (position : Nat) : Outcome Value := do
  let w := Word.ofBytes (← wordAt data position)
  if bits = 0 then .error .trap
  else if Value.intFits w bits then return .int w bits
  else .error (.decode (.intRange position bits))

/-- The truth value in a word at a position. -/
def boolAt (data : Bytes) (position : Nat) : Outcome Value := do
  let w := Word.ofBytes (← wordAt data position)
  if w = 0 then return .bool false
  else if w = 1 then return .bool true
  else .error (.decode (.truthValue w position))

/-- The byte string of a declared length in a word at a position. -/
def fixedBytesAt (size : Nat) (data : Bytes) (position : Nat) : Outcome Value := do
  let octets ← wordAt data position
  let padding ← sliceTrapping octets size (wordSize - size)
  if padding.any (· != 0) then .error (.decode (.bytesPadding size position))
  else do
    let octets ← sliceTrapping octets 0 size
    return .fixedBytes octets

/-- The text behind its length at a position. -/
def stringAt (data : Bytes) (position : Nat) : Outcome Value := do
  match Text.ofUtf8 (← packedAt data position) with
  | .ok s => return .string s
  | .error fault => .error (.decode (.notText position fault))

/-- A type with the reader of its values at a position. -/
abbrev Reader := Ty × (Nat → Outcome Value)

/-- The values of readers whose heads follow one another from a position on; offsets count from the
base of the sequence. -/
def readSequence (data : Bytes) (base : Nat) : (head : Nat) → List Reader → Outcome (List Value)
  | _, [] => .ok []
  | head, (t, read) :: rest => do
    let v ←
      if t.isDynamic then do
        let offset ← sizeAt data head
        match (Machine.add? base offset).filter (· ≤ data.length) with
        | some start => read start
        | none => .error (.decode (.offsetOutside offset head data.length))
      else read head
    match t.headSize.bind fun size => Machine.add? head size with
    | some next => do
      let vs ← readSequence data base next rest
      return v :: vs
    | none => .error (.decode (.headOverflow t head))

mutual

/-- The value of a type at a position. -/
def decodeValue (data : Bytes) : Ty → (position : Nat) → Outcome Value
  | .address, position => addressAt data position
  | .uint bits, position => uintAt bits data position
  | .int bits, position => intAt bits data position
  | .bool, position => boolAt data position
  | .fixedBytes size, position => fixedBytesAt size data position
  | .bytes, position => do return .bytes (← packedAt data position)
  | .string, position => stringAt data position
  | .array elem, position => do
    let count ← sizeAt data position
    let start ← addTrapping position wordSize
    checkElementCount elem count data start
    let items ← readSequence data start start
      (List.replicate count (elem, fun position => decodeValue data elem position))
    return .array elem items
  | .fixedArray elem length, position => do
    checkElementCount elem length data position
    let items ← readSequence data position position
      (List.replicate length (elem, fun position => decodeValue data elem position))
    return .fixedArray elem items
  | .tuple fields, position => do
    return .tuple (← readSequence data position position (readers data fields))

/-- Types with the readers of their values. -/
def readers (data : Bytes) : List Ty → List Reader
  | [] => []
  | t :: rest => (t, fun position => decodeValue data t position) :: readers data rest

end

/-- The values of types whose heads follow one another from a base on. -/
def decodeSequence (types : List Ty) (data : Bytes) (base : Nat) : Outcome (List Value) :=
  readSequence data base base (readers data types)

/-- The values of types at the start of the data. Types that no contract can declare are refused. -/
def decode (types : List Ty) (data : Bytes) : Outcome (List Value) :=
  match Ty.faults? types with
  | some fault => .error (.decode (.invalidType fault))
  | none => decodeSequence types data 0

/-- The value of one type at the start of the data. -/
def decodeSingle (t : Ty) (data : Bytes) : Outcome Value := do
  match (← decode [t] data).getLast? with
  | some v => return v
  | none => .error (.decode .noValue)

end ContractToolkit.Abi
