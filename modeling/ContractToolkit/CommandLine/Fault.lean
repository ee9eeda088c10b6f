import ContractToolkit.Error

/-!
# Failures of commands

What a command can fail with, and its report: a line for the failure itself, and
below it the cause, if it has one of its own.
-/

namespace ContractToolkit.CommandLine

open Abi

/-- Why a command fails. -/
inductive Fault where
  /-- An operation fails. -/
  | failed (error : Error)
  /-- The configuration file is refused. -/
  | configuration (path : String) (error : Error)
  /-- Another number of arguments than the function has. -/
  | argumentCount (expected found : Nat)
  /-- An argument that is no value of its type. -/
  | argument (text : String) (type : Ty) (fault : EncodeFault)
  /-- A topic that is none. -/
  | topic (text : String) (fault : Hex.FixedFault)
  /-- Data that is no byte string. -/
  | data (text : String) (fault : Hex.Fault)
  /-- An address that is none. -/
  | address (text : String) (fault : Hex.FixedFault)
  /-- An address of a caller that is none. -/
  | caller (text : String) (fault : Hex.FixedFault)
  /-- A text that names no block. -/
  | block (text : String)

/-- The failure in a line. -/
def Fault.message : Fault → String
  | failed error => error.message
  | configuration path _ => "loading configuration from " ++ path
  | argumentCount expected found =>
    "expected " ++ Text.ofNat expected ++ " arguments but got " ++ Text.ofNat found
  | argument text type _ => "argument '" ++ text ++ "' for type " ++ type.canonical
  | topic text fault => "invalid topic '" ++ text ++ "': " ++ fault.message
  | data text _ => "invalid hex data '" ++ text ++ "'"
  | address text fault => "invalid address '" ++ text ++ "': " ++ fault.message
  | caller text fault => "invalid caller '" ++ text ++ "': " ++ fault.message
  | block text => "invalid block tag '" ++ text ++ "'"

/-- The cause of a failure. -/
def Fault.cause? : Fault → Option String
  | configuration _ error => some error.message
  | argument _ _ fault => some (Error.encode fault).message
  | data _ fault => some fault.message
  | _ => none

/-- A text with four spaces in front of each line. -/
def indented (text : String) : String :=
  let margin := "    ".toList
  String.ofList (margin ++ text.toList.flatMap fun c => if c == '\n' then c :: margin else [c])

/-- Report of a failure. -/
def Fault.report (f : Fault) : String :=
  let cause := match f.cause? with
    | some text => "\n\nCaused by:\n" ++ indented text
    | none => ""
  "Error: " ++ f.message ++ cause ++ "\n"

/-- A failure of an operation as that of the command. -/
def ofOutcome {α : Type} (o : Outcome α) : Except Fault α := o.mapError .failed

/-- A refused declaration as the failure of the command. -/
def ofDeclaration {α : Type} (o : Except DescriptorFault α) : Except Fault α :=
  o.mapError fun fault => .failed (.descriptor fault)

end ContractToolkit.CommandLine
