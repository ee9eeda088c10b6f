import ContractToolkit.Bytes.Hex
import ContractToolkit.Chain.Transaction
import ContractToolkit.Json.Inspect
import ContractToolkit.Node.Exchange
import ContractToolkit.Remote.Request

/-!
# Providers

A provider has the methods by which a node is asked. Each is an exchange of its
own that leads to a result or a fault; what it asks and how is left to the
provider. A fault is told as a revert when the node has answered with an error
that mentions one, with the octets that the error carries.
-/

namespace ContractToolkit.Node

open Remote (TransportFault CallRequest Receipt)

/-- Why a method has no result. -/
inductive ProviderFault where
  /-- The node has answered with an error. -/
  | response (code : Int) (message : String) (data : Option Json)
  /-- Anything else. -/
  | other (report : String)

/-- Whether a word stands somewhere in a text. -/
def mentions (word : List Char) : List Char → Bool
  | [] => word.isEmpty
  | c :: rest => word.isPrefixOf (c :: rest) || mentions word rest

/-- The octets of hexadecimal digits with or without a mark in either case. -/
def readOctets (text : String) : Option Bytes :=
  let digits := match text.toList with
    | '0' :: 'x' :: rest => rest
    | '0' :: 'X' :: rest => rest
    | s => s
  (Hex.decode digits).toOption

mutual

/-- The first byte string in the data of an error, the fields of an object being searched in order.
-/
def revertData? : Json → Option Bytes
  | .string s => readOctets s
  | .object fields => firstRevertData? fields
  | _ => none

/-- The first byte string in fields. -/
def firstRevertData? : List (String × Json) → Option Bytes
  | [] => none
  | (_, j) :: rest =>
    match revertData? j with
    | some data => some data
    | none => firstRevertData? rest

end

/-- The data of an error for a reader. -/
def dataText (data : Option Json) : String :=
  match data with
  | some j => "Some(" ++ j.inspect ++ ")"
  | none => "None"

namespace ProviderFault

/-- The report on a fault. -/
def report : ProviderFault → String
  | response code message data =>
    "(code: " ++ Text.ofInt code ++ ", message: " ++ message ++ ", data: " ++ dataText data ++ ")"
  | other report => report

/-- The revert that a fault tells of. -/
def revert? : ProviderFault → Option TransportFault
  | response _ message data =>
    if mentions "revert".toList message.toList then
      some (.revert ((data.bind revertData?).getD []) (some message))
    else none
  | other _ => none

/-- The failure that a fault is told as. -/
def transport (fault : ProviderFault) : TransportFault := fault.revert?.getD (.rpc fault.report)

end ProviderFault

/-- An exchange that leads to a result or a fault. -/
abbrev Provided (α : Type) := ExceptT ProviderFault Exchange α

/-- The methods by which a node is asked. -/
structure Provider where
  /-- The chain of the node. -/
  chainId : Provided Word
  /-- The return data of a call on the state of a block. -/
  call (transaction : Transaction) (block : Block) : Provided Bytes
  /-- The logs that a query finds. -/
  logs (filter : LogFilter) : Provided (List Log)
  /-- The transaction with everything that was left open. -/
  fill (transaction : Transaction) : Provided Transaction
  /-- Sending a signed transaction, which tells its digest. -/
  broadcast (raw : Bytes) : Provided Hash
  /-- Waiting until so many blocks confirm a transaction; nothing when it was dropped. -/
  confirm (hash : Hash) (confirmations : Nat) : Provided (Option Receipt)

end ContractToolkit.Node
