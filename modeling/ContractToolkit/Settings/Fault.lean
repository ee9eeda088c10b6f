import ContractToolkit.Bytes.Hex
import ContractToolkit.Decimal.Layout

/-!
# What can be wrong with settings

The causes for which settings are refused when they are checked, and those for
which settings, prices or keys cannot be read at all.
-/

namespace ContractToolkit.Settings

/-- Why settings fail their check. -/
inductive CheckFault where
  /-- No address of a node. -/
  | missingUrl
  /-- An address of a node with another scheme than its transport takes. -/
  | urlScheme (url expected : String)
  /-- A price that the fee mode needs and that is not set. -/
  | missingFee (mode field : String)
  /-- A price that is negative or not finite. -/
  | fee (field : String) (value : Double)
  /-- A gas limit of zero. -/
  | gasLimit
  /-- A timeout of zero. -/
  | timeout
  /-- A block that is neither a tag nor a number. -/
  | blockTag (text : String)
  deriving DecidableEq, Repr

/-- Report of a fault. -/
def CheckFault.message : CheckFault → String
  | missingUrl => "Missing RPC URL"
  | urlScheme url expected => s!"Invalid RPC URL '{url}': expected {expected} scheme"
  | missingFee mode field => s!"Fee mode '{mode}' requires '{field}'"
  | fee field value => s!"Invalid fee value for '{field}': {value.plain}"
  | gasLimit => "Invalid gas limit: must be greater than 0"
  | timeout => "Invalid request timeout: must be greater than 0"
  | blockTag text => s!"Invalid block tag '{text}'"

/-- Why a price in gwei is no amount in wei. -/
inductive AmountFault where
  /-- Something else than decimal digits. -/
  | notDigits
  /-- More than 256 bits. -/
  | tooLarge
  /-- Something else than decimal digits after the sign. -/
  | signedDigits
  /-- More than 256 bits with a sign, or a negative zero. -/
  | signedRange
  deriving DecidableEq, Repr

/-- Report of a fault. -/
def AmountFault.message : AmountFault → String
  | notDigits => "a character is not in the range 0-9"
  | tooLarge => "the number is too large for the type"
  | signedDigits => "invalid digit found in string"
  | signedRange => "number does not fit in 256-bit integer"

/-- Why a text is no private key. -/
inductive KeyFault where
  /-- An odd number of octets. -/
  | oddDigits
  /-- A character that is no digit. -/
  | notDigit (octet : UInt8) (index : Nat)
  /-- Another number of digits than 64. -/
  | wrongLength
  /-- Zero, or not below the order of the group. -/
  | range
  deriving DecidableEq, Repr

/-- Report of a fault. -/
def KeyFault.message : KeyFault → String
  | oddDigits => "odd number of digits"
  | notDigit octet index =>
    let shown := Text.quotedChar (Char.ofNat octet.toNat)
    s!"invalid character {shown} at position {index}"
  | wrongLength => "invalid string length"
  | range => "signature error"

/-- Why settings are refused. -/
inductive Fault where
  /-- They fail their check. -/
  | check (fault : CheckFault)
  /-- Their file cannot be read. -/
  | unreadable (path cause : String)
  /-- Their file has a name of no known format. -/
  | unknownFormat
  /-- The number of confirmations in the environment is no size. -/
  | confirmations (text : String)
  /-- A price that the fee mode needs and that is not set. -/
  | missingFee (field : String)
  /-- A price that is no amount. -/
  | amount (field : String) (fault : AmountFault)
  /-- A private key that is none. -/
  | privateKey (fault : KeyFault)
  /-- A cause given in words. -/
  | described (text : String)
  deriving DecidableEq, Repr

/-- Report of a fault. -/
def Fault.message : Fault → String
  | check fault => fault.message
  | unreadable path cause => s!"Failed to read configuration file {path}: {cause}"
  | unknownFormat => "Unsupported configuration file format. Supported formats: .toml, .json"
  | confirmations text => s!"Invalid BINDERY_CONFIRMATIONS value: {text}"
  | missingFee field => s!"missing fee field '{field}'"
  | amount field fault => s!"invalid fee value for '{field}': {fault.message}"
  | privateKey fault => s!"Invalid private key: {fault.message}"
  | described text => text

end ContractToolkit.Settings
