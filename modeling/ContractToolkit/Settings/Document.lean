import ContractToolkit.Json.Reader
import ContractToolkit.Settings.Basic
import ContractToolkit.Toml.Reader

/-!
# Settings from documents

A configuration file is a JSON or a TOML document. Both are first brought into
one form. A section is a table of named settings, or an array with the settings
in their declared order; settings that are not known are passed over, settings
that are absent keep their value, and a setting that is given twice is refused.
The formats differ in three things: an absent optional setting may be a null in
JSON only, a section given as an array may be longer than declared in TOML only,
and a mode written as a table has a null in JSON and something empty in TOML.
-/

namespace ContractToolkit.Settings

/-- The format of a configuration file. -/
inductive Format where
  /-- JSON. -/
  | json
  /-- TOML. -/
  | toml
  deriving DecidableEq, Repr

/-- A document of either format. -/
inductive Document where
  /-- The absent value. -/
  | null
  /-- A truth value. -/
  | bool (b : Bool)
  /-- A whole number. -/
  | integer (n : Int)
  /-- Any other number. -/
  | double (d : Double)
  /-- A text. -/
  | text (s : String)
  /-- A sequence. -/
  | array (items : List Document)
  /-- Values under keys. -/
  | table (fields : List (String × Document))
  /-- Something that is written but has no value. -/
  | unreadable

namespace Document

mutual

/-- A JSON document. -/
def ofJson : JsonDraft → Document
  | .null => null
  | .bool b => bool b
  | .number n =>
    match n.value? with
    | some (.integer i) => integer i
    | some (.double d) => double d
    | _ => unreadable
  | .string (some s) => text s
  | .string none => unreadable
  | .array items => array (ofJsons items)
  | .object fields =>
    match ofJsonFields fields with
    | some fields => table fields
    | none => unreadable

/-- JSON documents. -/
def ofJsons : List JsonDraft → List Document
  | [] => []
  | d :: rest => ofJson d :: ofJsons rest

/-- The fields of a JSON object, if every key can be read. -/
def ofJsonFields : List (Option String × JsonDraft) → Option (List (String × Document))
  | [] => some []
  | (key, d) :: rest => do
    let key ← key
    let rest ← ofJsonFields rest
    return (key, ofJson d) :: rest

end

mutual

/-- A TOML value. A date reads as a table whose only key is no setting. -/
def ofToml : Toml → Document
  | .string s => text s
  | .integer n => integer n
  | .double d => double d
  | .bool b => bool b
  | .moment => table [("", null)]
  | .array items => array (ofTomls items)
  | .inlineTable _ fields => table (ofTomlFields fields)
  | .table _ fields => table (ofTomlFields fields)
  | .tables items => array (ofTomlTables items)

/-- TOML values. -/
def ofTomls : List Toml → List Document
  | [] => []
  | t :: rest => ofToml t :: ofTomls rest

/-- The fields of a TOML table. -/
def ofTomlFields : List (String × Toml) → List (String × Document)
  | [] => []
  | (key, t) :: rest => (key, ofToml t) :: ofTomlFields rest

/-- TOML tables under headers in double brackets. -/
def ofTomlTables : List (List (String × Toml)) → List Document
  | [] => []
  | fields :: rest => table (ofTomlFields fields) :: ofTomlTables rest

end

/-- The settings that a section gives, by name. -/
abbrev Section := List (String × Document)

/-- The section of a document that has settings of the given names. -/
def section? (format : Format) (names : List String) : Document → Option Section
  | table fields =>
    let known := fields.filter fun field => names.contains field.1
    if (known.map (·.1)).Nodup then some known else none
  | array items =>
    if format = .json ∧ names.length < items.length then none else some (names.zip items)
  | _ => none

/-- The setting of a name, or the value that holds when it is not given. -/
def Section.read {α : Type} (s : Section) (name : String) (fallback : α)
    (reader : Document → Option α) : Option α :=
  match s.lookup name with
  | some d => reader d
  | none => some fallback

/-- A text. -/
def text? : Document → Option String
  | text s => some s
  | _ => none

/-- A truth value. -/
def bool? : Document → Option Bool
  | bool b => some b
  | _ => none

/-- A size: a whole number of 64 bits without a sign. -/
def size? : Document → Option Nat
  | integer n => if 0 ≤ n ∧ n < Machine.sizeLimit then some n.toNat else none
  | _ => none

/-- A number, whole or not. -/
def double? : Document → Option Double
  | integer n => some (Double.ofInt n)
  | double d => some d
  | _ => none

/-- A setting that may be absent. -/
def optional? {α : Type} (reader : Document → Option α) : Document → Option (Option α)
  | null => some none
  | d => (reader d).map some

/-- What stands under the name of a mode that is written as a table. -/
def isEmptyPayload (format : Format) : Document → Bool
  | null => format = .json
  | array items => format = .toml && items.isEmpty
  | table fields => format = .toml && fields.isEmpty
  | _ => false

/-- A fee mode. -/
def feeMode? (format : Format) : Document → Option FeeMode
  | text name => FeeMode.ofName? name
  | table [(name, payload)] =>
    if isEmptyPayload format payload then FeeMode.ofName? name else none
  | _ => none

/-- How to reach a node. -/
def node? (format : Format) (d : Document) : Option NodeSettings := do
  let fallback : NodeSettings := {}
  let s ← section? format
    ["url", "use_websocket", "chain_id", "confirmations", "request_timeout_secs"] d
  return {
    url := ← s.read "url" fallback.url text?
    useWebSocket := ← s.read "use_websocket" fallback.useWebSocket bool?
    chainId := ← s.read "chain_id" fallback.chainId (optional? size?)
    confirmations := ← s.read "confirmations" fallback.confirmations size?
    requestTimeout := ← s.read "request_timeout_secs" fallback.requestTimeout size? }

/-- What to pay. -/
def fees? (format : Format) (d : Document) : Option FeeSettings := do
  let fallback : FeeSettings := {}
  let s ← section? format
    ["mode", "gas_price_gwei", "max_fee_gwei", "max_priority_fee_gwei", "gas_limit"] d
  return {
    mode := ← s.read "mode" fallback.mode (feeMode? format)
    gasPrice := ← s.read "gas_price_gwei" fallback.gasPrice (optional? double?)
    maxFee := ← s.read "max_fee_gwei" fallback.maxFee (optional? double?)
    maxPriorityFee := ← s.read "max_priority_fee_gwei" fallback.maxPriorityFee (optional? double?)
    gasLimit := ← s.read "gas_limit" fallback.gasLimit (optional? size?) }

/-- What calls read from. -/
def call? (format : Format) (d : Document) : Option CallSettings := do
  let fallback : CallSettings := {}
  let s ← section? format ["block", "caller"] d
  return {
    block := ← s.read "block" fallback.block text?
    caller := ← s.read "caller" fallback.caller (optional? text?) }

/-- What to report. -/
def logging? (format : Format) (d : Document) : Option LogSettings := do
  let fallback : LogSettings := {}
  let s ← section? format ["level", "json"] d
  return {
    level := ← s.read "level" fallback.level text?
    json := ← s.read "json" fallback.json bool? }

/-- All settings. -/
def settings? (format : Format) (d : Document) : Option Settings := do
  let fallback : Settings := {}
  let s ← section? format ["rpc", "fees", "call", "logging"] d
  return {
    node := ← s.read "rpc" fallback.node (node? format)
    fees := ← s.read "fees" fallback.fees (fees? format)
    call := ← s.read "call" fallback.call (call? format)
    logging := ← s.read "logging" fallback.logging (logging? format) }

end Document

/-- The document that a text in a format holds. -/
def Format.document? (format : Format) (text : String) : Option Document :=
  match format with
  | json => (JsonDraft.ofText text).map Document.ofJson
  | toml => (Toml.ofText text).map fun fields => .table (Document.ofTomlFields fields)

end ContractToolkit.Settings
