import ContractToolkit.Error
import ContractToolkit.Fees.Basic
import ContractToolkit.Settings.Basic

/-!
# Fees from settings

A price in gwei is read from its shortest decimal text: nine decimals count, and
further ones are cut off. A text with a minus sign is read as a number with a
sign and then taken for one without, so that it wraps around. A price with so
many digits that 256 bits do not hold them is refused; one that leaves 256 bits
only when it is scaled is a machine error.
-/

namespace ContractToolkit.Fees

open Settings (AmountFault FeeSettings)

/-- Decimals of a gwei. -/
def gweiDecimals : Nat := 9

/-- The number of digits without a sign; no digits are zero. -/
def unsignedAmount (digits : List Char) : Except AmountFault Nat :=
  if digits.all Char.isDigit then
    let n := Text.decimalValue digits
    if n < Nat.pow 2 256 then .ok n else .error .tooLarge
  else .error .notDigits

/-- The number of digits behind a minus sign, itself without the sign. -/
def negatedAmount (digits : List Char) : Except AmountFault Nat :=
  match unsignedAmount digits with
  | .ok n => if 0 < n ∧ n ≤ Nat.pow 2 255 then .ok n else .error .signedRange
  | .error .tooLarge => .error .signedRange
  | .error _ => .error .signedDigits

/-- A decimal text split at its point. -/
def splitPoint (s : List Char) : List Char × List Char :=
  (s.takeWhile (· != '.'), (s.dropWhile (· != '.')).drop 1)

/-- The amount in wei of a price in gwei. -/
def weiOfGwei (price : Double) : Except AmountFault (Option Word) :=
  let (whole, decimals) := splitPoint price.plain.toList
  let missing := gweiDecimals - decimals.length
  let digits := whole ++ decimals.take gweiDecimals
  match digits with
  | '-' :: digits => do
    let n ← if digits.isEmpty then pure 0 else negatedAmount digits
    let amount := n * Nat.pow 10 missing
    return if amount ≤ Nat.pow 2 255 then some (BitVec.ofInt 256 (-amount)) else none
  | digits => do
    let amount := (← unsignedAmount digits) * Nat.pow 10 missing
    return if amount < Nat.pow 2 256 then some (BitVec.ofNat 256 amount) else none

/-- The amount of a price that a mode needs. -/
def amountOf (field : String) (price : Option Double) : Outcome Word :=
  match price with
  | none => .error (.config (.missingFee field))
  | some p =>
    match weiOfGwei p with
    | .ok (some amount) => .ok amount
    | .ok none => .error .trap
    | .error fault => .error (.config (.amount field fault))

/-- The fees that settings ask for. -/
def ofSettings (s : FeeSettings) : Outcome Fees := do
  let limit : Option Word := s.gasLimit.map (BitVec.ofNat 256)
  match s.mode with
  | .legacy => return .legacy (← amountOf "gas_price_gwei" s.gasPrice) limit
  | .eip1559 =>
    let maxFee ← amountOf "max_fee_gwei" s.maxFee
    let priority ← amountOf "max_priority_fee_gwei" s.maxPriorityFee
    return .eip1559 maxFee priority limit
  | .estimate => return .estimate limit

end ContractToolkit.Fees
