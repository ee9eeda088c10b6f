import ContractToolkit.Node.JsonRpc
import ContractToolkit.Node.Transport
import ContractToolkit.Remote.Basic

/-!
# Links

The transports that the program uses: those over JSON-RPC. An operation is made
over a link request by request.
-/

namespace ContractToolkit

open Remote (CallRequest Submission Receipt)

namespace Node

/-- A link to a node. -/
structure Link where
  /-- The chain to sign for; the node is asked when it is absent. -/
  chainId : Option Nat := none
  /-- Blocks to wait for after a transaction is in one. -/
  confirmations : Nat := 1
  /-- How often something is asked again that has not happened yet. -/
  patience : Nat := 16
  /-- Seconds that a request may take. -/
  timeout : Nat := 30

/-- The transport over a link. -/
def Link.transport (link : Link) : Transport where
  provider := .jsonRpc link.patience
  timeout := link.timeout
  confirmations := link.confirmations
  chainId := link.chainId

/-- The return data of a call. -/
def call (r : CallRequest) (block : Block) (link : Link := {}) : Attempt Bytes :=
  link.transport.call r block

/-- The logs that a query finds. -/
def findLogs (filter : LogFilter) (link : Link := {}) : Attempt (List Log) :=
  link.transport.findLogs filter

/-- The receipt of a transaction that is signed, sent and confirmed. -/
def submit (link : Link) (s : Submission) (fees : Fees) (signer : Signer) : Attempt Receipt :=
  link.transport.submit s fees signer

end Node

/-- An operation over a link to a node. -/
def Remote.onLink {α : Type} (link : Node.Link) : Remote α → Node.Exchange α
  | .done result => .done result
  | .call r block next =>
    (Node.call r block link).run.andThen fun answer => onLink link (next answer)
  | .submit s fees signer next =>
    (Node.submit link s fees signer).run.andThen fun answer => onLink link (next answer)
  | .logs filter next =>
    (Node.findLogs filter link).run.andThen fun answer => onLink link (next answer)

end ContractToolkit
