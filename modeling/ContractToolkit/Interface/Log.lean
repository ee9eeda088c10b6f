import ContractToolkit.Bytes.Hex
import ContractToolkit.Json.Basic

/-!
# Logs and log queries

What a contract logs, and the query for logs by address, topics and blocks. A
query has one slot for each of the four topics that a log can have; an empty
slot matches anything.
-/

namespace ContractToolkit

/-- A block by its number or by its place in the chain. -/
inductive Block where
  /-- The last block. -/
  | latest
  /-- The block that is being made. -/
  | pending
  /-- The last block that is held to stay. -/
  | safe
  /-- The last block that is sure to stay. -/
  | finalized
  /-- The first block. -/
  | earliest
  /-- The block of a number. -/
  | number (n : Nat)
  deriving DecidableEq, Repr

/-- A quantity in hexadecimal, without leading zeros. -/
def quantity (n : Nat) : String := String.ofList ('0' :: 'x' :: Text.hexadecimal n)

namespace Block

/-- A block as a node takes it. -/
def text : Block → String
  | latest => "latest"
  | pending => "pending"
  | safe => "safe"
  | finalized => "finalized"
  | earliest => "earliest"
  | number n => quantity n

/-- The block of a place in the chain. -/
def ofTag? (s : String) : Option Block :=
  if s = "latest" then some latest
  else if s = "pending" then some pending
  else if s = "safe" then some safe
  else if s = "finalized" then some finalized
  else if s = "earliest" then some earliest
  else none

/-- The block that a text names: a place in the chain, or a number in decimal or after `0x`. -/
def ofText? (s : String) : Option Block :=
  match ofTag? s with
  | some block => some block
  | none =>
    match s.toList with
    | '0' :: 'x' :: digits => (Text.hexSize? digits).map number
    | digits => (Text.size? digits).map number

end Block

/-- A log. -/
structure Log where
  /-- The contract that logged. -/
  address : Address
  /-- The indexed digests and words. -/
  topics : List Hash
  /-- The encoded rest. -/
  data : Bytes
  /-- The number of the block. -/
  blockNumber : Option Nat := none
  /-- The transaction. -/
  transactionHash : Option Hash := none
  /-- The place in the block. -/
  logIndex : Option Nat := none
  deriving DecidableEq

/-- Topics that a log can have. -/
def topicSlots : Nat := 4

/-- A query for logs. -/
structure LogFilter where
  /-- The contract that logged. -/
  address : Address
  /-- The wanted topics by place; what is absent matches anything. -/
  topics : List (Option Hash)
  /-- The first block. -/
  fromBlock : Option Block := none
  /-- The last block. -/
  toBlock : Option Block := none
  deriving DecidableEq

/-- Slots up to the last one that is set. -/
def dropEmptyEnd (slots : List (Option Hash)) : List (Option Hash) :=
  (slots.reverse.dropWhile Option.isNone).reverse

/-- A query as a node takes it. -/
def LogFilter.toJson (f : LogFilter) : Json :=
  let block (key : String) (b : Option Block) : List (String × Json) :=
    match b with
    | some b => [(key, .string b.text)]
    | none => []
  let slot (t : Option Hash) : Json :=
    match t with
    | some h => .string (Word.hex h)
    | none => .null
  .object (block "fromBlock" f.fromBlock ++ block "toBlock" f.toBlock ++
    [("address", .string f.address.hex), ("topics", .array ((dropEmptyEnd f.topics).map slot))])

end ContractToolkit
