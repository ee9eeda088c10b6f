import ContractToolkit.Interface.Method

/-!
# Custom errors and reasons of reverts

An error that a contract declares, and the reason that revert data gives: the
text of `Error(string)`, the meaning of the code of `Panic(uint256)`, a declared
error with its arguments, or else the octets themselves.
-/

namespace ContractToolkit.Interface

open Abi Outcome

/-- An error that a contract can raise. -/
structure CustomError where
  /-- The name. -/
  name : String
  /-- The parameters. -/
  inputs : List Param
  deriving DecidableEq

namespace CustomError

/-- The error of a name and parameters that can be declared. -/
def declare (name : String) (inputs : List Param) : Except DescriptorFault CustomError := do
  checkName name
  checkParams inputs
  return ⟨name, inputs⟩

/-- The canonical signature. -/
def signature (e : CustomError) : String := Abi.signature e.name (tys e.inputs)

/-- The selector. -/
def selector (e : CustomError) : Selector := Abi.selector e.signature

/-- The error of a declaration such as `error Denied(address who)`. -/
def ofText (text : String) : Except DescriptorFault CustomError := do
  let parts ← Declaration.ofChars "error" text.toList
  if !parts.rest.isEmpty then .error (.afterError (String.ofList parts.rest) text)
  declare (String.ofList parts.name) ((← paramList parts.params).map EventParam.plain)

/-- The declaration of an error as text. -/
def text (e : CustomError) : String := "error " ++ e.name ++ "(" ++ paramsText e.inputs ++ ")"

/-- The arguments in revert data of the error. -/
def decode (e : CustomError) (data : Bytes) : Outcome (List Value) :=
  if e.selector.bytes.isPrefixOf data then Abi.decode (tys e.inputs) (data.drop 4)
  else .error (.decode (.errorSelector e.signature))

/-- Revert data of the error. -/
def encode (e : CustomError) (args : List Value) : Outcome Bytes := do
  return e.selector.bytes ++ (← encodeParams (tys e.inputs) args)

end CustomError

/-- The selector of `Error(string)`. -/
def textSelector : Selector := 0x08c379a0#32

/-- The selector of `Panic(uint256)`. -/
def panicSelector : Selector := 0x4e487b71#32

/-- What a panic code means. -/
def panicMeaning : Nat → String
  | 0x00 => "generic compiler panic"
  | 0x01 => "assertion failed"
  | 0x11 => "arithmetic overflow or underflow"
  | 0x12 => "division or modulo by zero"
  | 0x21 => "invalid enum value"
  | 0x22 => "incorrectly encoded storage byte array"
  | 0x31 => "pop on empty array"
  | 0x32 => "array index out of bounds"
  | 0x41 => "out of memory"
  | 0x51 => "call to uninitialized internal function"
  | _ => "unknown panic code"

/-- The digits of a panic code, at least two. -/
def panicDigits (code : Nat) : String :=
  let digits := Text.hexadecimal code
  String.ofList (if digits.length < 2 then '0' :: digits else digits)

/-- The reason that a panic code gives. -/
def panicReason (code : Word) : String :=
  "panic 0x" ++ panicDigits code.toNat ++ ": " ++ panicMeaning code.toNat

/-- The reason for octets that say nothing. -/
def unrecognized (data : Bytes) : String := "unrecognized revert data " ++ data.hex

/-- The reason of a declared error with its arguments. -/
def raised (e : CustomError) (args : List Value) : String :=
  e.name ++ "(" ++ ", ".intercalate (Value.displays args) ++ ")"

/-- The reason that revert data gives, with the errors that a contract declares. -/
def reasonOf (errors : List CustomError) (data : Bytes) : String :=
  if data.isEmpty then "execution reverted without a reason"
  else if data.length < 4 then unrecognized data
  else
    let selector := Selector.ofBytes (data.take 4)
    let payload := data.drop 4
    if selector = textSelector then
      match decodeSingle .string payload with
      | .ok (.string reason) => reason
      | _ => unrecognized data
    else if selector = panicSelector then
      match decodeSingle (.uint 256) payload with
      | .ok (.uint code _) => panicReason code
      | _ => unrecognized data
    else match errors.find? (·.selector = selector) with
      | none => unrecognized data
      | some e =>
        match e.decode data with
        | .ok args => raised e args
        | .error _ => unrecognized data

/-- The reason that revert data gives, where a trap in a cut or a decoder stays a trap. -/
def reasonTrapping (errors : List CustomError) (data : Bytes) : Outcome String :=
  if data.isEmpty then return "execution reverted without a reason"
  else if data.length < 4 then return unrecognized data
  else do
    let first ← sliceTrapping data 0 4
    let selector := Selector.ofBytes first
    if selector = textSelector then do
      let payload ← sliceTrapping data 4 (data.length - 4)
      match ← passOver (decodeSingle .string payload) with
      | some (.string reason) => return reason
      | _ => return unrecognized data
    else if selector = panicSelector then do
      let payload ← sliceTrapping data 4 (data.length - 4)
      match ← passOver (decodeSingle (.uint 256) payload) with
      | some (.uint code _) => return panicReason code
      | _ => return unrecognized data
    else match errors.find? (·.selector = selector) with
      | none => return unrecognized data
      | some e => do
        match ← passOver (decodeBehind e.selector (tys e.inputs) (.errorSelector e.signature) data)
          with
        | some args => return raised e args
        | none => return unrecognized data

end ContractToolkit.Interface
