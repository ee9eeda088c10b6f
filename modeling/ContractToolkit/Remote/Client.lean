import ContractToolkit.Interface.Store
import ContractToolkit.Remote.Call

/-!
# Clients

A client prepares calls: functions that only read are simulated, all others are
submitted for a signer, with the fees that the rule of the client has for them.
Arguments are encoded when a call is prepared, so that nothing is asked when they
are wrong. Reverts are explained with the errors that the client knows.
-/

namespace ContractToolkit

open Abi Interface Remote

/-- A client. -/
structure Client where
  /-- What decides on the fees of each function. -/
  policy : FeeRule
  /-- Who signs, if anyone does. -/
  signer : Option Signer := none
  /-- The account that simulated calls seem to come from. -/
  caller : Option Address := none
  /-- The block that simulated calls read from. -/
  block : Block := .latest
  /-- The errors that explain reverts. -/
  errors : List CustomError := []

namespace Client

/-- The name under which deployments go. -/
def creationLabel : String := "constructor"

/-- The error of a request that has failed. -/
def explain (errors : List CustomError) : TransportFault → Error
  | .revert [] (some message) => .reverted message
  | .revert data _ => .reverted (reasonOf errors data)
  | .rpc message => .transport message

/-- The return values in the return data of a function. No data where there should be some is an
error of its own. -/
def readReturned (m : Method) (recipient : Address) (data : Bytes) : Outcome (List Value) :=
  if data.isEmpty ∧ !m.outputs.isEmpty then .error (.decode (.noData m.signature recipient))
  else m.decodeOutput data

/-- A simulated call of a function, on the state of a block. -/
def readAt (c : Client) (m : Method) (recipient : Address) (args : List Value) (block : Block) :
    Outcome (Call (List Value)) := do
  let data ← m.encodeCall args
  return ⟨m.signature, .call ⟨c.caller, recipient, data⟩ block fun answer =>
    .done ((answer.mapError (explain c.errors)).bind (readReturned m recipient))⟩

/-- A simulated call of a function. -/
def read (c : Client) (m : Method) (recipient : Address) (args : List Value) :
    Outcome (Call (List Value)) :=
  c.readAt m recipient args c.block

/-- Who signs for a target. -/
def requireSigner (c : Client) (target : String) : Outcome Signer :=
  match c.signer with
  | some signer => .ok signer
  | none => .error (.missingSigner target)

/-- A receipt, unless it tells that the transaction was reverted. -/
def checkReceipt (receipt : Receipt) : Outcome Receipt :=
  if receipt.status = some 0 then
    .error (.reverted ("transaction " ++ Word.hex receipt.hash ++ " reverted"))
  else .ok receipt

/-- The call that submits something for a signer. -/
def submitting (c : Client) (label : String) (submission : Submission) (signer : Signer) :
    Call Receipt :=
  ⟨label, .submit submission (c.policy label) signer fun answer =>
    .done ((answer.mapError (explain c.errors)).bind checkReceipt)⟩

/-- A submitted call of a function, with native value, which only payable functions take. -/
def write (c : Client) (m : Method) (recipient : Address) (args : List Value) (value : Word) :
    Outcome (Call Receipt) := do
  if value ≠ 0 ∧ m.mutability ≠ .payable then .error (.encode (.notPayable m.signature value))
  let data ← m.encodeCall args
  let signer ← c.requireSigner m.signature
  return c.submitting m.signature ⟨some recipient, data, value⟩ signer

/-- What a call has led to that is simulated or submitted as its function demands. -/
inductive Effect where
  /-- Return values of a function that only reads. -/
  | returned (values : List Value)
  /-- The receipt of any other function. -/
  | mined (receipt : Receipt)

/-- The call of a function, simulated if it only reads and submitted otherwise. -/
def dispatch (c : Client) (m : Method) (recipient : Address) (args : List Value) :
    Outcome (Call Effect) :=
  if m.mutability = .read then do
    return (← c.read m recipient args).map fun values => .ok (.returned values)
  else do
    return (← c.write m recipient args 0).map fun receipt => .ok (.mined receipt)

/-- The call that creates a contract. -/
def create (c : Client) (data : Bytes) (value : Word) : Outcome (Call Receipt) := do
  let signer ← c.requireSigner creationLabel
  return c.submitting creationLabel ⟨none, data, value⟩ signer

end Client

end ContractToolkit
