import ContractToolkit.Abi.Fault
import ContractToolkit.Settings.Fault

/-!
# Errors

Everything that an operation can fail with, by kind, and its report. Only a
failure of the connection to the node may pass when the same operation is done
again; every other error stays.
-/

namespace ContractToolkit

/-- Why a document cannot be read or written. -/
inductive DocumentFault where
  /-- A text that is not the expected JSON document. -/
  | json
  /-- A text that is not the expected TOML document. -/
  | toml
  /-- A value that no TOML document holds. -/
  | tomlOutput
  /-- A cause given in words. -/
  | described (text : String)
  deriving DecidableEq, Repr

/-- Report of a fault. -/
def DocumentFault.message : DocumentFault → String
  | json => "JSON error"
  | toml => "TOML parsing error"
  | tomlOutput => "TOML serialization error"
  | described text => text

/-- An error. -/
inductive Error where
  /-- Octets that cannot be decoded. -/
  | decode (fault : Abi.DecodeFault)
  /-- Values that cannot be encoded. -/
  | encode (fault : Abi.EncodeFault)
  /-- A log of another event. -/
  | topicMismatch (expected : String) (found : Option String)
  /-- Execution that was reverted by the contract. -/
  | reverted (reason : String)
  /-- A failure of the node or of the connection to it. -/
  | transport (text : String)
  /-- A type, signature or declaration that is refused, or a name that is not known. -/
  | descriptor (fault : Abi.DescriptorFault)
  /-- A call that changes state, without anyone to sign it. -/
  | missingSigner (target : String)
  /-- Settings that are refused. -/
  | config (fault : Settings.Fault)
  /-- A document that cannot be read or written. -/
  | serialization (fault : DocumentFault)
  /-- A file that cannot be read or written. -/
  | io (text : String)
  /-- Any other error. -/
  | other (text : String)
  /-- A machine operation that left its range where nothing checks for it: a sum of sizes that is no
  size, or a part of a byte string that reaches past its end. -/
  | trap

/-- Report of an error. -/
def Error.message : Error → String
  | decode fault => "ABI decode error: " ++ fault.message
  | encode fault => "ABI encode error: " ++ fault.message
  | topicMismatch expected found =>
    "Topic mismatch: expected " ++ expected ++ ", found " ++ found.getD "no topic"
  | reverted reason => "Execution reverted: " ++ reason
  | transport text => "Transport error: " ++ text
  | descriptor fault => fault.report
  | missingSigner target => "No signer configured for state-mutating call to " ++ target
  | config fault => "Configuration error: " ++ fault.message
  | serialization fault => "Serialization error: " ++ fault.message
  | io text => "I/O error: " ++ text
  | other text => text
  | trap => "arithmetic overflow or access out of bounds"

/-- Whether doing the same operation again can succeed. -/
def Error.isTransient : Error → Bool
  | transport _ => true
  | _ => false

/-- Outcome of an operation. -/
abbrev Outcome (α : Type) := Except Error α

/-- An outcome whose failure is a refused declaration. -/
def Outcome.ofDescriptor {α : Type} : Except Abi.DescriptorFault α → Outcome α
  | .ok a => .ok a
  | .error fault => .error (.descriptor fault)

/-- An outcome whose failure is a value that cannot be encoded. -/
def Outcome.ofEncode {α : Type} : Except Abi.EncodeFault α → Outcome α
  | .ok a => .ok a
  | .error fault => .error (.encode fault)

/-- The result of a step whose failure is passed over. A trap is no failure and stays. -/
def Outcome.passOver {α : Type} : Outcome α → Outcome (Option α)
  | .ok a => .ok (some a)
  | .error .trap => .error .trap
  | .error _ => .ok none

end ContractToolkit
