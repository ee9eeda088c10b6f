import ContractToolkit.Chain.Transaction
import ContractToolkit.Remote.Request

/-!
# Results of a node

Numbers and byte strings are hexadecimal texts whose mark may be missing. The
structures that a node describes are only read as far as they are used, but what
must be there is checked to be there.
-/

namespace ContractToolkit.Node

open Remote (Receipt)

/-- The number of at most so many hexadecimal digits, of which there is one at least. -/
def number? (digits : Nat) : Json → Option Nat
  | .string s =>
    let text := Hex.withoutMark s.toList
    if 0 < text.length ∧ text.length ≤ digits then Text.hexValue? text else none
  | _ => none

/-- A number of 256 bits. -/
def word? (j : Json) : Option Word := (number? 64 j).map (BitVec.ofNat 256)

/-- A number of 64 bits. -/
def size? : Json → Option Nat := number? 16

/-- The number of exactly so many hexadecimal digits. -/
def fixed? (digits : Nat) : Json → Option Nat
  | .string s =>
    let text := Hex.withoutMark s.toList
    if text.length = digits then Text.hexValue? text else none
  | _ => none

/-- A digest. -/
def hash? (j : Json) : Option Hash := (fixed? 64 j).map (BitVec.ofNat 256)

/-- An address. -/
def address? (j : Json) : Option Address := (fixed? 40 j).map (BitVec.ofNat 160)

/-- A byte string. -/
def bytes? : Json → Option Bytes
  | .string s =>
    let digits := match s.toList with
      | '0' :: 'x' :: rest => rest
      | '0' :: 'X' :: rest => rest
      | s => s
    (Hex.decode digits).toOption
  | _ => none

/-- A field that must be there. -/
def field? {α : Type} (j : Json) (key : String) (reader : Json → Option α) : Option α :=
  (j.field? key).bind reader

/-- A field that may be absent or null. -/
def optional? {α : Type} (j : Json) (key : String) (reader : Json → Option α) : Option (Option α) :=
  match j.field? key with
  | none => some none
  | some .null => some none
  | some value => (reader value).map some

/-- Items of an array. -/
def list? {α : Type} (reader : Json → Option α) (j : Json) : Option (List α) :=
  j.items?.bind fun items => items.mapM reader

/-- A log. -/
def log? (j : Json) : Option Log := do
  let address ← field? j "address" address?
  let topics ← field? j "topics" (list? hash?)
  let data ← field? j "data" bytes?
  let _ ← optional? j "blockHash" hash?
  let blockNumber ← optional? j "blockNumber" size?
  let transactionHash ← optional? j "transactionHash" hash?
  let _ ← optional? j "transactionIndex" size?
  let logIndex ← optional? j "logIndex" word?
  let _ ← optional? j "transactionLogIndex" word?
  let _ ← optional? j "logType" Json.text?
  let _ ← optional? j "removed" Json.bool?
  return { address, topics, data, blockNumber, transactionHash
           logIndex := logIndex.map BitVec.toNat }

/-- Logs. -/
def logs? : Json → Option (List Log) := list? log?

/-- A receipt that is there. -/
def presentReceipt? (j : Json) : Option Receipt := do
  let hash ← field? j "transactionHash" hash?
  let _ ← field? j "transactionIndex" size?
  let _ ← optional? j "blockHash" hash?
  let block ← optional? j "blockNumber" size?
  let _ ← field? j "from" address?
  let _ ← optional? j "to" address?
  let _ ← field? j "cumulativeGasUsed" word?
  let _ ← optional? j "gasUsed" word?
  let contract ← optional? j "contractAddress" address?
  let logs ← field? j "logs" logs?
  let status ← optional? j "status" size?
  let _ ← field? j "logsBloom" (fixed? 512)
  let _ ← optional? j "type" size?
  let _ ← optional? j "effectiveGasPrice" word?
  return { hash, status, block, contract, logs }

/-- A receipt, or that there is none yet. -/
def receipt? : Json → Option (Option Receipt)
  | .null => some none
  | j => (presentReceipt? j).map some

/-- The block of a transaction that is there, if it is in one. -/
def presentTransaction? (j : Json) : Option (Option Nat) := do
  let _ ← field? j "hash" hash?
  let _ ← field? j "nonce" word?
  let _ ← optional? j "blockHash" hash?
  let block ← optional? j "blockNumber" size?
  let _ ← optional? j "transactionIndex" size?
  let _ ← optional? j "to" address?
  let _ ← field? j "value" word?
  let _ ← field? j "gas" word?
  let _ ← field? j "input" bytes?
  let _ ← field? j "v" size?
  let _ ← field? j "r" word?
  let _ ← field? j "s" word?
  return block

/-- The block of a transaction, if it is in one, or that there is no transaction. -/
def transaction? : Json → Option (Option (Option Nat))
  | .null => some none
  | j => (presentTransaction? j).map some

/-- The base fee of a block that is there, if it has one. -/
def presentBlock? (j : Json) : Option (Option Word) := do
  let _ ← field? j "parentHash" hash?
  let _ ← field? j "sha3Uncles" hash?
  let _ ← field? j "stateRoot" hash?
  let _ ← field? j "transactionsRoot" hash?
  let _ ← field? j "receiptsRoot" hash?
  let _ ← field? j "gasUsed" word?
  let _ ← field? j "gasLimit" word?
  let _ ← field? j "extraData" bytes?
  optional? j "baseFeePerGas" word?

/-- The base fee of a block, if it has one, or that there is no block. -/
def baseFee? : Json → Option (Option (Option Word))
  | .null => some none
  | j => (presentBlock? j).map some

/-- A number that is not written as a text. -/
def plainNumber? : Json → Option Unit
  | .integer _ => some ()
  | .double _ => some ()
  | _ => none

/-- A number of 256 bits that may also not be written as a text. -/
def wordOrPlain? : Json → Option Word
  | .integer n => if 0 ≤ n then some (BitVec.ofInt 256 n) else none
  | j => word? j

/-- The tips in a history of fees, by block. -/
def rewards? (j : Json) : Option (List (List Word)) := do
  let _ ← field? j "baseFeePerGas" (list? word?)
  let _ ← field? j "gasUsedRatio" (list? plainNumber?)
  let _ ← field? j "oldestBlock" wordOrPlain?
  match j.field? "reward" with
  | none => some []
  | some rewards => list? (list? word?) rewards

end ContractToolkit.Node
