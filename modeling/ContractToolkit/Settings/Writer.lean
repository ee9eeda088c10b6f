import ContractToolkit.Error
import ContractToolkit.Json.Writer
import ContractToolkit.Settings.Document
import ContractToolkit.Toml.Writer

/-!
# Settings to documents

In JSON every setting is written, an absent one as null. In TOML every section
is written under its header, without the settings that are absent.
-/

namespace ContractToolkit

namespace Settings

/-- A setting that may be absent, in JSON. -/
def optionalJson {α : Type} (write : α → Json) : Option α → Json
  | some a => write a
  | none => .null

/-- A size in JSON. -/
def sizeJson (n : Nat) : Json := .integer n

/-- How to reach a node, in JSON. -/
def NodeSettings.toJson (s : NodeSettings) : Json :=
  .object [("url", .string s.url), ("use_websocket", .bool s.useWebSocket),
    ("chain_id", optionalJson sizeJson s.chainId), ("confirmations", sizeJson s.confirmations),
    ("request_timeout_secs", sizeJson s.requestTimeout)]

/-- What to pay, in JSON. -/
def FeeSettings.toJson (s : FeeSettings) : Json :=
  .object [("mode", .string s.mode.name), ("gas_price_gwei", optionalJson .double s.gasPrice),
    ("max_fee_gwei", optionalJson .double s.maxFee),
    ("max_priority_fee_gwei", optionalJson .double s.maxPriorityFee),
    ("gas_limit", optionalJson sizeJson s.gasLimit)]

/-- What calls read from, in JSON. -/
def CallSettings.toJson (s : CallSettings) : Json :=
  .object [("block", .string s.block), ("caller", optionalJson .string s.caller)]

/-- What to report, in JSON. -/
def LogSettings.toJson (s : LogSettings) : Json :=
  .object [("level", .string s.level), ("json", .bool s.json)]

/-- A line of a TOML section: a key, and the text of its value unless the document cannot hold it.
-/
abbrev Line := String × Option String

/-- The line of a setting that may be absent. -/
def optionalLine {α : Type} (key : String) (write : α → Option String) : Option α → List Line
  | some a => [(key, write a)]
  | none => []

/-- How to reach a node, in TOML. -/
def NodeSettings.lines (s : NodeSettings) : List Line :=
  [("url", some (Toml.writeText s.url)), ("use_websocket", some (Toml.writeBool s.useWebSocket))] ++
    optionalLine "chain_id" Toml.writeSize? s.chainId ++
    [("confirmations", Toml.writeSize? s.confirmations),
      ("request_timeout_secs", Toml.writeSize? s.requestTimeout)]

/-- What to pay, in TOML. -/
def FeeSettings.lines (s : FeeSettings) : List Line :=
  let price (key : String) (p : Option Double) : List Line :=
    optionalLine key (fun d => some (Toml.writeDouble d)) p
  [("mode", some (Toml.writeText s.mode.name))] ++ price "gas_price_gwei" s.gasPrice ++
    price "max_fee_gwei" s.maxFee ++ price "max_priority_fee_gwei" s.maxPriorityFee ++
    optionalLine "gas_limit" Toml.writeSize? s.gasLimit

/-- What calls read from, in TOML. -/
def CallSettings.lines (s : CallSettings) : List Line :=
  ("block", some (Toml.writeText s.block)) ::
    optionalLine "caller" (fun t => some (Toml.writeText t)) s.caller

/-- What to report, in TOML. -/
def LogSettings.lines (s : LogSettings) : List Line :=
  [("level", some (Toml.writeText s.level)), ("json", some (Toml.writeBool s.json))]

/-- The lines of a section, if the document can hold all of its values. -/
def writeLines (lines : List Line) : Option String := do
  let texts ← lines.mapM fun (key, text) => text.map fun t => key ++ " = " ++ t ++ "\n"
  return String.join texts

/-- A section under its header. -/
def writeSection (name : String) (lines : List Line) : Option String :=
  (writeLines lines).map fun body => "[" ++ name ++ "]\n" ++ body

end Settings

/-- Settings in JSON. -/
def Settings.toJson (s : Settings) : Json :=
  .object [("rpc", s.node.toJson), ("fees", s.fees.toJson), ("call", s.call.toJson),
    ("logging", s.logging.toJson)]

/-- Settings in TOML, if a document can hold them. -/
def Settings.toToml? (s : Settings) : Option String := do
  let sections ← [("rpc", s.node.lines), ("fees", s.fees.lines), ("call", s.call.lines),
    ("logging", s.logging.lines)].mapM fun (name, lines) => Settings.writeSection name lines
  return "\n".intercalate sections

end ContractToolkit
