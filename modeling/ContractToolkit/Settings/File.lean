import ContractToolkit.Files.Path
import ContractToolkit.Settings.Check
import ContractToolkit.Settings.Writer

/-!
# Configuration files

The name of a file tells its format. Settings that are loaded are changed by
the environment and then checked; settings that are saved are not.
-/

namespace ContractToolkit

namespace Settings

/-- What the environment sets. -/
structure Environment where
  /-- The address of the node. -/
  url : Option String := none
  /-- Blocks to wait for, as text. -/
  confirmations : Option String := none
  /-- The block that calls read from. -/
  block : Option String := none
  /-- The least level that is reported. -/
  logLevel : Option String := none
  deriving DecidableEq, Repr

/-- The variables of the environment that are looked at. -/
def variableNames : List String :=
  ["BINDERY_RPC_URL", "BINDERY_CONFIRMATIONS", "BINDERY_BLOCK", "BINDERY_LOG_LEVEL"]

/-- What the variables of the environment set, by name. -/
def Environment.ofVariables (lookup : String → Option String) : Environment where
  url := lookup "BINDERY_RPC_URL"
  confirmations := lookup "BINDERY_CONFIRMATIONS"
  block := lookup "BINDERY_BLOCK"
  logLevel := lookup "BINDERY_LOG_LEVEL"

/-- The format that the name of a file tells. -/
def Format.ofFileName? (path : String) : Option Format :=
  match Files.extension? path with
  | some "toml" => some .toml
  | some "json" => some .json
  | _ => none

/-- The error of a text that is no document in a format. -/
def Format.readError : Format → Error
  | json => .serialization .json
  | toml => .serialization .toml

/-- The settings that a text in a format holds. -/
def Format.read (format : Format) (text : String) : Outcome Settings :=
  match (format.document? text).bind (Document.settings? format) with
  | some s => .ok s
  | none => .error format.readError

/-- Whether an address is that of a web socket. -/
def isWebSocket (url : String) : Bool := (schemes true).1.any (hasScheme url)

/-- The number of confirmations that the environment sets, or else the given one. -/
def Environment.confirmationsOr (env : Environment) (fallback : Nat) : Except Fault Nat :=
  match env.confirmations with
  | none => .ok fallback
  | some text =>
    match Text.size? text.toList with
    | some n => .ok n
    | none => .error (.confirmations text)

end Settings

open Settings

/-- Settings with those that the environment sets in their place. An address also tells the kind of
connection. -/
def Settings.override (s : Settings) (env : Environment) : Except Fault Settings := do
  let node := match env.url with
    | some url => { s.node with url, useWebSocket := isWebSocket url }
    | none => s.node
  let confirmations ← env.confirmationsOr s.node.confirmations
  return {
    node := { node with confirmations }
    fees := s.fees
    call := { s.call with block := env.block.getD s.call.block }
    logging := { s.logging with level := env.logLevel.getD s.logging.level } }

/-- The settings of a file under an environment, changed and checked. The content of the file, or
why it cannot be read, is given. -/
def Settings.load (path : String) (content : Except String String) (env : Environment) :
    Outcome Settings := do
  let text ← content.mapError fun cause => .config (.unreadable path cause)
  let some format := Format.ofFileName? path | .error (.config .unknownFormat)
  let read ← format.read text
  let s ← (read.override env).mapError .config
  s.check.mapError fun fault => .config (.check fault)
  return s

/-- The content of a file that holds settings. -/
def Settings.content (s : Settings) (path : String) : Outcome String :=
  match Format.ofFileName? path with
  | some .json => .ok s.toJson.pretty
  | some .toml =>
    match s.toToml? with
    | some text => .ok text
    | none => .error (.serialization .tomlOutput)
  | none => .error (.config .unknownFormat)

/-- The content with which settings are saved in a file. Why the file cannot be written, if so, is
given; that counts only when there is something to write. -/
def Settings.save (s : Settings) (path : String) (writable : Except String Unit) :
    Outcome String := do
  let content ← s.content path
  writable.mapError .io
  return content

end ContractToolkit
