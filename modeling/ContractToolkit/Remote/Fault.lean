import ContractToolkit.Bytes.Basic

/-!
# Failures of a node

A request to a node fails on the way or at the node, or because a contract
reverted the execution.
-/

namespace ContractToolkit.Remote

/-- Why a request has no answer. -/
inductive TransportFault where
  /-- The node or the way to it failed. -/
  | rpc (message : String)
  /-- A contract reverted the execution, with data and a message of the node. -/
  | revert (data : Bytes) (message : Option String)
  deriving DecidableEq, Repr

/-- Report of a failure. -/
def TransportFault.message : TransportFault → String
  | rpc message => message
  | revert _ (some message) => "execution reverted: " ++ message
  | revert _ none => "execution reverted"

end ContractToolkit.Remote
