import ContractToolkit.Remote.Contract

/-!
# Deployments

Creating contracts of one interface from code. The receipt of the creation
tells the address; the contract is then bound to the client that has created it.
-/

namespace ContractToolkit

open Abi Interface Remote

/-- What is needed to create contracts. -/
structure Deployment where
  /-- What the creation goes through. -/
  client : Client
  /-- What the contracts declare. -/
  interface : Interface
  /-- The code. -/
  bytecode : Bytes
  /-- The native value that a creation carries. -/
  value : Word := 0

namespace Deployment

/-- The constructor; a contract that declares none has one without parameters. -/
def constructor (d : Deployment) : Constructor := d.interface.constructor?.getD .implicit

/-- The code, with the arguments of the constructor behind it. -/
def creationData (d : Deployment) (args : List Value) : Outcome Bytes := do
  if d.bytecode.isEmpty then .error (.encode .emptyBytecode)
  if d.value ≠ 0 ∧ !d.constructor.payable then
    .error (.encode (.notPayable Client.creationLabel d.value))
  d.constructor.encodeDeploy d.bytecode args

/-- The contract that a receipt tells of. -/
def contractOf (d : Deployment) (receipt : Receipt) : Outcome Contract :=
  match receipt.contract with
  | some address => .ok (.bind address d.interface d.client)
  | none =>
    .error (.transport ("receipt for " ++ Word.hex receipt.hash ++ " carries no contract address"))

/-- The call that creates a contract. -/
def deploy (d : Deployment) (args : List Value) : Outcome (Call Contract) := do
  let data ← d.creationData args
  return (← d.client.create data d.value).map d.contractOf

end Deployment

/-- The call that creates a contract through a client that only has fees and a signer. -/
def Contract.deploy (policy : FeeRule) (signer : Signer) (interface : Interface)
    (bytecode : Bytes) (args : List Value) : Outcome (Call Contract) :=
  Deployment.deploy ⟨{ policy, signer := some signer }, interface, bytecode, 0⟩ args

end ContractToolkit
