import ContractToolkit.Error
import ContractToolkit.Node.Link
import ContractToolkit.Node.Unreached
import ContractToolkit.Settings.Basic

/-!
# Connections

A network has nodes that answer at their addresses, each from a script. The link
that settings ask for is made without asking the node anything: over HTTP its
address only has to be one. No web socket is ever reached.
-/

namespace ContractToolkit.Node

open Settings (NodeSettings)

/-- The nodes that answer, by address. -/
abbrev Network := String → Option Exchange.Script

/-- The network in which no node answers. -/
def Network.silent : Network := fun _ => none

/-- How often something is asked again at most: more often than the node has replies. -/
def Network.patience (n : Network) (url : String) : Nat :=
  ((n url).getD []).foldl (fun sum entry => sum + entry.2.length) 16

/-- The link that settings ask for. -/
def connect (n : Network) (s : NodeSettings) : Outcome Link :=
  if s.useWebSocket then
    .error (.transport ("Failed to connect to Ethereum node via WebSocket: " ++
      (SocketAddress.fault s.url (n s.url).isSome).message))
  else
    match Url.ofText s.url with
    | .ok _ => .ok ⟨s.chainId, s.confirmations, n.patience s.url, s.requestTimeout⟩
    | .error fault =>
      .error (.transport ("Failed to create Ethereum HTTP provider: " ++ fault.message))

/-- The chain of a node, or the error of asking for it. -/
def chainOf (link : Link := {}) : Exchange (Outcome Nat) :=
  link.transport.askChainId.run.andThen fun answer =>
    .done (answer.mapError fun fault => .transport fault.message)

/-- An exchange with the node at an address, which may not be there. -/
def Exchange.runAt {α : Type} (n : Network) (url : String) (e : Exchange α) : Run α :=
  match n url with
  | some script => e.run script
  | none =>
    match Url.ofText url with
    | .ok address => ⟨e.runUnreached (unreachedReport address), [], []⟩
    | .error fault => ⟨e.runUnreached fault.message, [], []⟩

end ContractToolkit.Node
