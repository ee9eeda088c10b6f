import ContractToolkit.Settings.Basic
import ContractToolkit.Settings.Fault
import ContractToolkit.Text.Number

/-!
# The check of settings

Settings are checked as a whole, in a fixed order: the address of the node, the
timeout, the prices that the fee mode needs, the gas limit, the block. The first
thing that is wrong is reported.
-/

namespace ContractToolkit

namespace Settings

/-- Schemes of addresses, and how a report calls them. -/
def schemes (useWebSocket : Bool) : List String × String :=
  if useWebSocket then (["ws://", "wss://"], "ws(s)") else (["http://", "https://"], "http(s)")

/-- Whether an address begins with a scheme. -/
def hasScheme (url : String) (scheme : String) : Bool := scheme.toList.isPrefixOf url.toList

/-- The address fits the kind of connection. -/
def NodeSettings.checkUrl (s : NodeSettings) : Except CheckFault Unit :=
  let (allowed, expected) := schemes s.useWebSocket
  if s.url = "" then .error .missingUrl
  else if allowed.any (hasScheme s.url) then .ok ()
  else .error (.urlScheme s.url expected)

/-- A request has time. -/
def NodeSettings.checkTimeout (s : NodeSettings) : Except CheckFault Unit :=
  if s.requestTimeout = 0 then .error .timeout else .ok ()

/-- A price that the mode needs. -/
def requireFee (mode : FeeMode) (field : String) (price : Option Double) :
    Except CheckFault Double :=
  match price with
  | some p => .ok p
  | none => .error (.missingFee mode.name field)

/-- A price is finite and at least zero. -/
def checkFee (field : String) (price : Double) : Except CheckFault Unit :=
  if price.isFinite ∧ price.isNonNegative then .ok () else .error (.fee field price)

/-- The prices that the mode needs are there and can be paid. -/
def FeeSettings.checkPrices (s : FeeSettings) : Except CheckFault Unit :=
  match s.mode with
  | .legacy => do
    let price ← requireFee .legacy "gas_price_gwei" s.gasPrice
    checkFee "gas_price_gwei" price
  | .eip1559 => do
    let maxFee ← requireFee .eip1559 "max_fee_gwei" s.maxFee
    let priority ← requireFee .eip1559 "max_priority_fee_gwei" s.maxPriorityFee
    checkFee "max_fee_gwei" maxFee
    checkFee "max_priority_fee_gwei" priority
  | .estimate => .ok ()

/-- Some gas may be used. -/
def FeeSettings.checkLimit (s : FeeSettings) : Except CheckFault Unit :=
  if s.gasLimit = some 0 then .error .gasLimit else .ok ()

/-- Places in the chain that have a name. -/
def blockTags : List String := ["latest", "pending", "safe", "finalized", "earliest"]

/-- Whether a text names a block: a place in the chain, a decimal number, or a hexadecimal number
after `0x`. -/
def isBlockTag (text : String) : Bool :=
  blockTags.contains text || (Text.size? text.toList).isSome ||
    match text.toList with
    | '0' :: 'x' :: digits => (Text.hexSize? digits).isSome
    | _ => false

/-- The block can be read. -/
def CallSettings.check (s : CallSettings) : Except CheckFault Unit :=
  if isBlockTag s.block then .ok () else .error (.blockTag s.block)

end Settings

/-- The first thing that is wrong with settings, if anything is. -/
def Settings.check (s : Settings) : Except Settings.CheckFault Unit := do
  s.node.checkUrl
  s.node.checkTimeout
  s.fees.checkPrices
  s.fees.checkLimit
  s.call.check

end ContractToolkit
