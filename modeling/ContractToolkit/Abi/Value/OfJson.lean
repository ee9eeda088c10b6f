import ContractToolkit.Abi.Fault
import ContractToolkit.Text.WhiteSpace

/-!
# Values from JSON

A JSON value is read by a type: integers from numbers, decimal texts and `0x`
hexadecimal texts, octets from hexadecimal texts, sequences and tuples from
arrays.
-/

namespace ContractToolkit.Abi.Value

/-- The unsigned integer of decimal digits; no digits stand for zero. -/
def decimalWord? (s : List Char) : Option Word :=
  if s.all Char.isDigit ∧ Text.decimalValue s < Nat.pow 2 256 then
    some (BitVec.ofNat 256 (Text.decimalValue s))
  else none

/-- The unsigned integer of at most 64 hexadecimal digits, with or without another mark. -/
def hexWord? (s : List Char) : Option Word :=
  let digits := Hex.withoutMark s
  if digits.length ≤ 64 then (Text.hexValue? digits).map (BitVec.ofNat 256) else none

/-- The unsigned integer of a text. -/
def unsignedOfChars (s : List Char) : Except EncodeFault Word :=
  let s := Text.trim s
  let word := match s with
    | ['0', 'x'] => none
    | '0' :: 'x' :: digits => hexWord? digits
    | digits => decimalWord? digits
  match word with
  | some w => .ok w
  | none => .error (.unsignedText (String.ofList s))

/-- The two's complement word of a sign and a magnitude; a negative zero has none. -/
def signedWord? (negative : Bool) (magnitude : Word) : Option Word :=
  let w := if negative then -magnitude else magnitude
  if w.msb = negative then some w else none

/-- The signed integer of a text. -/
def signedOfChars (s : List Char) : Except EncodeFault Word := do
  let s := Text.trim s
  let (negative, digits) := match s with
    | '-' :: rest => (true, rest)
    | s => (false, s)
  let magnitude ← unsignedOfChars digits
  match signedWord? negative magnitude with
  | some w => return w
  | none => .error (.signedRange (String.ofList s))

/-- The octets of a hexadecimal text. -/
def octetsOfText (s : String) : Except EncodeFault Bytes :=
  (Hex.decode (Hex.withoutMark s.toList)).mapError (.hexText s)

/-- The text of a JSON string, for a type that is read from one. -/
def textFor (t : Ty) (json : Json) : Except EncodeFault String :=
  match json with
  | .string s => .ok s
  | _ => .error (.jsonMismatch t json)

/-- The items of a JSON array, for a type that is read from one. -/
def itemsFor (t : Ty) (json : Json) : Except EncodeFault (List Json) :=
  match json with
  | .array items => .ok items
  | _ => .error (.jsonMismatch t json)

mutual

/-- The value of a type that a JSON value stands for. -/
def ofJson (t : Ty) (json : Json) : Except EncodeFault Value :=
  match t with
  | .address => do
    let s ← textFor .address json
    match Address.ofText s with
    | .ok a => .ok (.address a)
    | .error fault => .error (.addressText s fault)
  | .uint bits =>
    match json with
    | .integer n =>
      match (Json.integer n).unsigned? with
      | some n => .ok (.uint (BitVec.ofNat 256 n) bits)
      | none => .error (.jsonMismatch (.uint bits) json)
    | .string s => do return .uint (← unsignedOfChars s.toList) bits
    | _ => .error (.jsonMismatch (.uint bits) json)
  | .int bits =>
    match json with
    | .integer n =>
      match (Json.integer n).signed? with
      | some n => .ok (.int (BitVec.ofInt 256 n) bits)
      | none => .error (.jsonMismatch (.int bits) json)
    | .string s => do return .int (← signedOfChars s.toList) bits
    | _ => .error (.jsonMismatch (.int bits) json)
  | .bool =>
    match json with
    | .bool b => .ok (.bool b)
    | _ => .error (.jsonMismatch .bool json)
  | .string => do return .string (← textFor .string json)
  | .bytes => do return .bytes (← octetsOfText (← textFor .bytes json))
  | .fixedBytes size => do
    let octets ← octetsOfText (← textFor (.fixedBytes size) json)
    if octets.length = size then return .fixedBytes octets
    else .error (.jsonBytes size (.fixedBytes size) octets.length)
  | .array elem => do
    let items ← itemsFor (.array elem) json
    return .array elem (← items.mapM fun item => ofJson elem item)
  | .fixedArray elem length => do
    let items ← itemsFor (.fixedArray elem length) json
    if items.length = length then
      return .fixedArray elem (← items.mapM fun item => ofJson elem item)
    else .error (.jsonElements length (.fixedArray elem length) items.length)
  | .tuple fields => do
    let items ← itemsFor (.tuple fields) json
    if items.length = fields.length then return .tuple (← ofJsons fields items)
    else .error (.jsonComponents fields.length (.tuple fields) items.length)

/-- The values of types that JSON values stand for, as many as there are of both. -/
def ofJsons : List Ty → List Json → Except EncodeFault (List Value)
  | t :: types, json :: rest => do
    let v ← ofJson t json
    let vs ← ofJsons types rest
    return v :: vs
  | _, _ => .ok []

end

end ContractToolkit.Abi.Value
