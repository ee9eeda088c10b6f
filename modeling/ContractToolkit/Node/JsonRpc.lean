import ContractToolkit.Node.Price
import ContractToolkit.Node.Provider
import ContractToolkit.Node.Reading

/-!
# A provider over JSON-RPC

The methods of the provider that the program uses. What a transaction leaves open
is filled in from what the node tells: prices from the last blocks, and an
estimate of the gas. Waiting asks again until something has happened, so often at
most as there is patience for.
-/

namespace ContractToolkit.Node

open Remote (Receipt)

/-- The fault of a reply that cannot be read. -/
def unreadableFault : ProviderFault := .other "Deserialization Error"

/-- The wanted value in a reply, if there is one in time. -/
def Reply.read? {α : Type} (reader : Json → Option α) : Reply → Option (Except ProviderFault α)
  | result value =>
    match reader value with
    | some a => some (.ok a)
    | none => some (.error unreadableFault)
  | error code message data => some (.error (.response code message data))
  | unreadable => some (.error unreadableFault)
  | unreachable cause => some (.error (.other cause))
  | late => none

/-- A request whose result is read. -/
def request {α : Type} (method : String) (params : Option (List Json)) (reader : Json → Option α) :
    Provided α :=
  ExceptT.mk (.ask ⟨method, params⟩ fun reply =>
    match reply.read? reader with
    | some outcome => .done outcome
    | none => .waiting)

/-- Blocks that a history of fees goes back. -/
def historyBlocks : Nat := 10

/-- A history of fees, asked for with the number of blocks written in one way. -/
def askHistory (blocks : Json) : Provided (List (List Word)) :=
  request "eth_feeHistory"
    (some [blocks, .string "latest", .array [.double (Double.ofNat false 5)]]) rewards?

/-- A history of fees. Nodes of early days take the number of blocks as it is; the first failure is
reported when both ways fail. -/
def history : Provided (List (List Word)) :=
  tryCatch (askHistory (.string (quantity historyBlocks))) fun first =>
    tryCatch (askHistory (.integer historyBlocks)) fun _ => throw first

/-- Prices from the last blocks. -/
def askPrices : Provided (Word × Word) := do
  let block ← request "eth_getBlockByNumber" (some [.string "latest", .bool false]) baseFee?
  let some baseFee := block | throw (.other "Latest block not found")
  let some baseFee := baseFee | throw (.other "EIP-1559 not activated")
  let rewards ← history
  let (maxFee, tip) := estimate baseFee.toNat (rewards.map fun r => r.map BitVec.toNat)
  return (BitVec.ofNat 256 maxFee, BitVec.ofNat 256 tip)

/-- The transaction with prices. -/
def fillPrices (t : Transaction) : Provided Transaction :=
  match t.pricing with
  | .eip1559 none none => do
    let (maxFee, tip) ← askPrices
    return { t with pricing := .eip1559 (some maxFee) (some tip) }
  | _ => return t

/-- The transaction with an amount of gas. -/
def fillGas (t : Transaction) : Provided Transaction :=
  match t.gas with
  | some _ => return t
  | none => do
    let gas ← request "eth_estimateGas" (some [t.toJson]) word?
    return { t with gas := some gas }

/-- A question about a transaction. -/
def askAbout {α : Type} (method : String) (hash : Hash) (reader : Json → Option α) :
    Exchange (Except ProviderFault α) :=
  (request method (some [.string (Word.hex hash)]) reader).run

/-- How often a transaction may be missing before it counts as dropped. -/
def mayBeMissing : Nat := 3

/-- Waiting until a transaction is in a block; false when it was dropped. A failed question is asked
again. -/
def awaitBlock (hash : Hash) : (patience missing : Nat) → Exchange Bool
  | 0, _ => .waiting
  | patience + 1, missing =>
    (askAbout "eth_getTransactionByHash" hash transaction?).andThen fun found =>
      match found, missing with
      | .ok (some (some _)), _ => .done true
      | .ok none, 0 => .done false
      | .ok none, missing + 1 => awaitBlock hash patience missing
      | _, missing => awaitBlock hash patience missing

/-- Waiting for the receipt of a transaction. A failed question is asked again. -/
def awaitReceipt (hash : Hash) : (patience : Nat) → Exchange Receipt
  | 0 => .waiting
  | patience + 1 =>
    (askAbout "eth_getTransactionReceipt" hash receipt?).andThen fun found =>
      match found with
      | .ok (some receipt) => .done receipt
      | _ => awaitReceipt hash patience

/-- Waiting until the last block has a number. Here a failed question is final. -/
def awaitHeight (height : Nat) : (patience : Nat) → Provided Unit
  | 0 => ExceptT.mk .waiting
  | patience + 1 => do
    let number ← request "eth_blockNumber" none size?
    if height ≤ number then return () else awaitHeight height patience

/-- Waiting until a transaction is confirmed; nothing when it was dropped. -/
def awaitConfirmed (patience : Nat) (hash : Hash) (confirmations : Nat) :
    Provided (Option Receipt) := do
  let mined ← ExceptT.lift (awaitBlock hash patience mayBeMissing)
  if mined then
    let receipt ← ExceptT.lift (awaitReceipt hash patience)
    if 1 < confirmations then
      awaitHeight (receipt.block.getD 0 + confirmations) patience
    return some receipt
  else return none

/-- The provider that asks so often again at most. -/
def Provider.jsonRpc (patience : Nat) : Provider where
  chainId := request "eth_chainId" none word?
  call t block := request "eth_call" (some [t.toJson, .string block.text]) bytes?
  logs filter := request "eth_getLogs" (some [filter.toJson]) logs?
  fill t := do fillGas (← fillPrices t)
  broadcast raw := request "eth_sendRawTransaction" (some [.string raw.hex]) hash?
  confirm := awaitConfirmed patience

end ContractToolkit.Node
