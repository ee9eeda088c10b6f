import ContractToolkit.Fees.Basic
import ContractToolkit.Interface.Log
import ContractToolkit.Signing.Signer

/-!
# Requests to a node and their replies

Three things are asked of a node: to simulate a call, to submit a transaction
and tell its receipt, and to find logs. How the node is reached, how long it may
take and how many blocks confirm a transaction is not decided here.
-/

namespace ContractToolkit.Remote

/-- A call that is only simulated. -/
structure CallRequest where
  /-- The account that the call seems to come from. -/
  caller : Option Address
  /-- The contract. -/
  recipient : Address
  /-- The call data. -/
  data : Bytes
  deriving DecidableEq

/-- What a transaction is to do. -/
structure Submission where
  /-- The contract; absent for the creation of one. -/
  recipient : Option Address
  /-- The call data or the creation data. -/
  data : Bytes
  /-- The native value that it carries. -/
  value : Word
  deriving DecidableEq

/-- What a transaction has done. -/
structure Receipt where
  /-- The transaction. -/
  hash : Hash
  /-- Zero if it was reverted. Nodes of early days tell none. -/
  status : Option Nat
  /-- The block that it is in. -/
  block : Option Nat
  /-- The contract that it created. -/
  contract : Option Address
  /-- The logs. -/
  logs : List Log
  deriving DecidableEq

/-- A request. -/
inductive Request where
  /-- To simulate a call on the state of a block. -/
  | call (request : CallRequest) (block : Block)
  /-- To have a transaction signed and mined. -/
  | submit (submission : Submission) (fees : Fees) (signer : Signer)
  /-- To find logs. -/
  | logs (filter : LogFilter)

/-- A reply. -/
inductive Reply where
  /-- None, for a reason. -/
  | failure (fault : TransportFault)
  /-- Return data of a call. -/
  | returned (data : Bytes)
  /-- The receipt of a transaction. -/
  | mined (receipt : Receipt)
  /-- Logs. -/
  | found (logs : List Log)
  deriving DecidableEq

/-- The fault of a request for which no reply of its kind is left. -/
def unanswered : TransportFault := .rpc "no scripted reply"

/-- The return data in a reply. -/
def Reply.returned? : Reply → Except TransportFault Bytes
  | failure fault => .error fault
  | returned data => .ok data
  | _ => .error unanswered

/-- The receipt in a reply. -/
def Reply.mined? : Reply → Except TransportFault Receipt
  | failure fault => .error fault
  | mined receipt => .ok receipt
  | _ => .error unanswered

/-- The logs in a reply. -/
def Reply.found? : Reply → Except TransportFault (List Log)
  | failure fault => .error fault
  | found logs => .ok logs
  | _ => .error unanswered

end ContractToolkit.Remote
