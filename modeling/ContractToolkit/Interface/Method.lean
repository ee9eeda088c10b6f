import ContractToolkit.Abi.Decoding
import ContractToolkit.Interface.Declaration

/-!
# Functions and constructors

A function of a contract: its name, parameters, return values, and whether it
changes the state of the chain. Its canonical signature and its selector follow
from its name and the types of its parameters. A constructor has parameters
only.
-/

namespace ContractToolkit.Interface

open Abi

/-- How a function deals with the state of the chain. -/
inductive Mutability where
  /-- It only reads: it is simulated and never submitted. -/
  | read
  /-- It is submitted as a signed transaction. -/
  | write
  /-- It is submitted and may carry native value. -/
  | payable
  deriving DecidableEq, Repr

/-- The mutability of a name. -/
def Mutability.ofText (s : String) : Except DescriptorFault Mutability :=
  if s = "view" ∨ s = "pure" then .ok .read
  else if s = "nonpayable" then .ok .write
  else if s = "payable" then .ok .payable
  else .error (.mutability s)

/-- A function. -/
structure Method where
  /-- The name. -/
  name : String
  /-- The parameters. -/
  inputs : List Param
  /-- The return values. -/
  outputs : List Param
  /-- How it deals with the state of the chain. -/
  mutability : Mutability
  deriving DecidableEq

/-- The types of parameters. -/
def tys (ps : List Param) : List Ty := ps.map Param.ty

/-- Whether parameters can be declared, with the first fault when they cannot. -/
def checkParams (ps : List Param) : Except DescriptorFault Unit :=
  match Ty.faults? (tys ps) with
  | some fault => .error fault
  | none => .ok ()

/-- The values behind a selector, where each cut is made without a test of its own. -/
def decodeBehind (selector : Selector) (types : List Ty) (refused : DecodeFault) (data : Bytes) :
    Outcome (List Value) :=
  if data.length < 4 then .error (.decode refused)
  else do
    let first ← sliceTrapping data 0 4
    if first = selector.bytes then do
      let payload ← sliceTrapping data 4 (data.length - 4)
      decode types payload
    else .error (.decode refused)

namespace Method

/-- The function of a name, parameters, return values and mutability that can be declared. -/
def declare (name : String) (inputs outputs : List Param) (mutability : Mutability) :
    Except DescriptorFault Method := do
  checkName name
  checkParams (inputs ++ outputs)
  return ⟨name, inputs, outputs, mutability⟩

/-- The canonical signature. -/
def signature (m : Method) : String := Abi.signature m.name (tys m.inputs)

/-- The selector. -/
def selector (m : Method) : Selector := Abi.selector m.signature

/-- The mutability among the words behind the parameters; of several the last one counts. -/
def modifiers (signature : String) (mutability : Mutability) :
    List (List Char) → Except DescriptorFault Mutability
  | [] => .ok mutability
  | word :: rest =>
    match Mutability.ofText (String.ofList word) with
    | .ok mutability => modifiers signature mutability rest
    | .error _ =>
      if word = "external".toList ∨ word = "public".toList ∨ word = "virtual".toList ∨
          word = "override".toList then modifiers signature mutability rest
      else .error (.modifier (String.ofList word) signature)

/-- The text inside the parentheses of a clause for return values. -/
def returnsBody? : List Char → Option (List Char)
  | '(' :: rest => if rest.getLast? = some ')' then some rest.dropLast else none
  | _ => none

/-- The function of a declaration such as `function get(uint256 id) view returns (bytes)`. -/
def ofText (text : String) : Except DescriptorFault Method := do
  let parts ← Declaration.ofChars "function" text.toList
  let inputs ← paramList parts.params
  let (words, returns) := match splitAtWord? "returns".toList parts.rest with
    | some (before, after) => (before, some (Text.trim after))
    | none => (parts.rest, none)
  let mutability ← modifiers text .write (Text.words words)
  let outputs ← match returns with
    | none => .ok []
    | some clause =>
      match returnsBody? clause with
      | some body => paramList body
      | none => .error (.returnsClause text)
  declare (String.ofList parts.name) (inputs.map EventParam.plain) (outputs.map EventParam.plain)
    mutability

/-- The declaration of a function as text. -/
def text (m : Method) : String :=
  "function " ++ m.name ++ "(" ++ paramsText m.inputs ++ ")" ++
    (match m.mutability with
      | .read => " view"
      | .payable => " payable"
      | .write => "") ++
    (if m.outputs.isEmpty then "" else " returns (" ++ paramsText m.outputs ++ ")")

end Method

/-- An outcome whose encoding faults are those of the arguments for a target. -/
def forTarget {α : Type} (target : String) : Outcome α → Outcome α
  | .error (.encode fault) => .error (.encode (.inCall target fault))
  | outcome => outcome

namespace Method

/-- Call data: the selector, then the encoded arguments. -/
def encodeCall (m : Method) (args : List Value) : Outcome Bytes := do
  let encoded ← forTarget m.signature (encodeParams (tys m.inputs) args)
  return m.selector.bytes ++ encoded

/-- The return values in return data. -/
def decodeOutput (m : Method) (data : Bytes) : Outcome (List Value) := decode (tys m.outputs) data

/-- The arguments in call data for the function. -/
def decodeInput (m : Method) (calldata : Bytes) : Outcome (List Value) :=
  if m.selector.bytes.isPrefixOf calldata then decode (tys m.inputs) (calldata.drop 4)
  else .error (.decode (.callSelector m.selector m.signature))

end Method

/-- A constructor. -/
structure Constructor where
  /-- The parameters. -/
  inputs : List Param
  /-- Whether a deployment may carry native value. -/
  payable : Bool
  deriving DecidableEq

namespace Constructor

/-- The constructor of a contract that declares none. -/
def implicit : Constructor := ⟨[], false⟩

/-- The constructor of parameters that can be declared. -/
def declare (inputs : List Param) (payable : Bool) : Except DescriptorFault Constructor := do
  checkParams inputs
  return ⟨inputs, payable⟩

/-- The constructor of a declaration such as `constructor(address owner) payable`. -/
def ofText (text : String) : Except DescriptorFault Constructor := do
  let parts ← Declaration.ofChars "constructor" text.toList
  if !parts.name.isEmpty then .error (.namedConstructor text)
  let payable := (Text.words parts.rest).any (· = "payable".toList)
  declare ((← paramList parts.params).map EventParam.plain) payable

/-- The declaration of a constructor as text. -/
def text (c : Constructor) : String :=
  "constructor(" ++ paramsText c.inputs ++ ")" ++ if c.payable then " payable" else ""

/-- Creation data: the code, then the encoded arguments. -/
def encodeDeploy (c : Constructor) (bytecode : Bytes) (args : List Value) : Outcome Bytes := do
  let encoded ← forTarget "constructor" (encodeParams (tys c.inputs) args)
  return bytecode ++ encoded

end Constructor

end ContractToolkit.Interface
