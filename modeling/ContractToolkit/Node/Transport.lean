import ContractToolkit.Node.Provider

/-!
# Transports

How the three requests of an operation are made by the methods of a provider. A
submitted transaction is completed with what its fees leave open, signed, sent
once, and waited for until it is confirmed; sending is never tried again. Every
method has limited time, except for waiting.
-/

namespace ContractToolkit.Node

open Remote (TransportFault CallRequest Submission Receipt)

/-- An exchange that may fail. -/
abbrev Attempt (α : Type) := ExceptT TransportFault Exchange α

/-- An attempt that is decided already. -/
def decided {α : Type} (outcome : Except TransportFault α) : Attempt α := ExceptT.mk (.done outcome)

/-- Seconds for a reader. -/
def secondsText (seconds : Nat) : String :=
  if seconds = 0 then "0ns" else Text.ofNat seconds ++ "s"

/-- The failure of a method for which the time is over. -/
def timedOut (seconds : Nat) : TransportFault :=
  .rpc ("request timed out after " ++ secondsText seconds)

/-- A method whose faults are told as failures, without a limit of time. -/
def Provided.awaited {α : Type} (method : Provided α) : Attempt α :=
  ExceptT.mk (method.run.andThen fun outcome => .done (outcome.mapError ProviderFault.transport))

/-- A method that is given up after so many seconds. -/
def Provided.timed {α : Type} (method : Provided α) (seconds : Nat) : Attempt α :=
  ExceptT.mk (method.run.within.andThen fun outcome => .done (match outcome with
    | some outcome => outcome.mapError ProviderFault.transport
    | none => .error (timedOut seconds)))

/-- The chain that a node reports, unless it is out of range. -/
def chainIdOf (id : Word) : Except TransportFault Nat :=
  if id.toNat < Machine.sizeLimit then .ok id.toNat
  else
    .error (.rpc ("node reported chain id " ++ Text.ofNat id.toNat ++
      " which does not fit in u64"))

/-- The call that a node simulates. -/
def callTransaction (r : CallRequest) : Transaction where
  pricing := .legacy none
  sender := r.caller
  recipient := some r.recipient
  data := r.data

/-- The transaction that a submission asks for. -/
def draft (s : Submission) (fees : Fees) (sender : Address) : Transaction where
  pricing :=
    match fees with
    | .legacy price _ => .legacy (some price)
    | .eip1559 maxFee maxPriorityFee _ => .eip1559 (some maxFee) (some maxPriorityFee)
    | .estimate _ => .eip1559 none none
  sender := some sender
  recipient := s.recipient
  value := some s.value
  data := s.data
  gas := fees.gasLimit

/-- A way to a node by the methods of a provider. -/
structure Transport where
  /-- The methods. -/
  provider : Provider
  /-- Seconds that a method may take. -/
  timeout : Nat
  /-- Blocks to wait for after a transaction is in one. -/
  confirmations : Nat
  /-- The chain to sign for; the node is asked when it is absent. -/
  chainId : Option Nat

namespace Transport

variable (t : Transport)

/-- The chain of the node. -/
def askChainId : Attempt Nat := do
  decided (chainIdOf (← t.provider.chainId.timed t.timeout))

/-- The return data of a call. -/
def call (r : CallRequest) (block : Block) : Attempt Bytes :=
  (t.provider.call (callTransaction r) block).timed t.timeout

/-- The logs that a query finds. -/
def findLogs (filter : LogFilter) : Attempt (List Log) :=
  (t.provider.logs filter).timed t.timeout

/-- The chain to sign for. -/
def chain : Attempt Nat :=
  match t.chainId with
  | some id => pure id
  | none => t.askChainId

/-- The transaction for a chain with everything that was left open. -/
def fillFor (transaction : Transaction) (id : Nat) : Attempt Transaction :=
  (t.provider.fill { transaction with chainId := some id }).timed t.timeout

/-- The transaction with its chain and everything else that was left open. -/
def complete (transaction : Transaction) : Attempt Transaction := do
  t.fillFor transaction (← t.chain)

/-- The receipt of a transaction that was sent, once it is confirmed. -/
def conclude (hash : Hash) : Attempt Receipt := do
  match ← (t.provider.confirm hash t.confirmations).awaited with
  | some receipt => return receipt
  | none => throw (.rpc ("transaction " ++ Word.hex hash ++ " was dropped from the mempool"))

/-- The receipt of a transaction that is signed, sent and confirmed. -/
def submit (s : Submission) (fees : Fees) (signer : Signer) : Attempt Receipt := do
  let transaction ← t.complete (draft s fees signer.address)
  let signature ← decided (signer.sign transaction)
  let hash ← (t.provider.broadcast (transaction.signed signature)).timed t.timeout
  t.conclude hash

end Transport

end ContractToolkit.Node
