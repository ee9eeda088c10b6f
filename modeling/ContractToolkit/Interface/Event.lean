import ContractToolkit.Interface.Log
import ContractToolkit.Interface.Method

/-!
# Events

An event of a contract, the decoding of its logs, and the query for them. The
first topic of a log is the digest of the signature unless the event is
anonymous; then come the indexed parameters in order, sequences, tuples, texts
and byte strings as digests. All other parameters are encoded in the data.
-/

namespace ContractToolkit.Interface

open Abi

/-- An event. -/
structure Event where
  /-- The name. -/
  name : String
  /-- The parameters. -/
  params : List EventParam
  /-- Whether its logs lack the digest of the signature. -/
  anonymous : Bool
  deriving DecidableEq

/-- An argument of a logged event. -/
inductive EventArg where
  /-- A value. -/
  | value (v : Value)
  /-- The digest of a value that is not logged itself. -/
  | hashed (h : Hash)
  deriving DecidableEq

/-- A parameter of a logged event. -/
structure DecodedParam where
  /-- The name. -/
  name : String
  /-- Whether it is logged as a topic. -/
  indexed : Bool
  /-- The argument. -/
  arg : EventArg
  deriving DecidableEq

/-- A logged event. -/
structure DecodedEvent where
  /-- The name of the event. -/
  name : String
  /-- Its canonical signature. -/
  signature : String
  /-- The arguments in declared order. -/
  params : List DecodedParam
  /-- The contract that logged. -/
  address : Option Address := none
  /-- The number of the block. -/
  blockNumber : Option Nat := none
  /-- The transaction. -/
  transactionHash : Option Hash := none
  /-- The place in the block. -/
  logIndex : Option Nat := none
  deriving DecidableEq

namespace EventArg

/-- The value, of a value. -/
def value? : EventArg → Option Value
  | value v => some v
  | hashed _ => none

/-- The JSON form of an argument. -/
def toJson : EventArg → Json
  | value v => v.toJson
  | hashed h => .object [("hash", .string (Word.hex h))]

end EventArg

namespace DecodedEvent

/-- The first argument under a name. -/
def get? (e : DecodedEvent) (name : String) : Option EventArg :=
  (e.params.find? (·.name = name)).map (·.arg)

/-- The value under a name. -/
def value? (e : DecodedEvent) (name : String) : Option Value := (e.get? name).bind EventArg.value?

/-- The arguments under their names, or under their positions from `index` on where they have none.
-/
def argFields (index : Nat) : List DecodedParam → List (String × Json)
  | [] => []
  | p :: rest =>
    (if p.name.isEmpty then Text.ofNat index else p.name, p.arg.toJson) ::
      argFields (index + 1) rest

/-- The JSON form of a logged event; of two arguments under one key the later one is kept. -/
def toJson (e : DecodedEvent) : Json :=
  let optional {α : Type} (key : String) (o : Option α) (f : α → Json) : List (String × Json) :=
    match o with
    | some a => [(key, f a)]
    | none => []
  .ofFields ([("event", .string e.name), ("signature", .string e.signature),
      ("args", .ofFields (argFields 0 e.params))] ++
    optional "address" e.address (fun a => .string a.hex) ++
    optional "blockNumber" e.blockNumber (fun n => .integer n) ++
    optional "transactionHash" e.transactionHash (fun h => .string (Word.hex h)) ++
    optional "logIndex" e.logIndex (fun n => .integer n))

end DecodedEvent

namespace Event

/-- The types of the parameters. -/
def types (e : Event) : List Ty := e.params.map EventParam.ty

/-- The canonical signature. -/
def signature (e : Event) : String := Abi.signature e.name e.types

/-- The digest of the signature, which an anonymous event never logs. -/
def topic (e : Event) : Hash := Abi.topic e.signature

/-- The indexed parameters. -/
def indexed (e : Event) : List EventParam := e.params.filter EventParam.indexed

/-- The types of the parameters in the data. -/
def dataTypes (e : Event) : List Ty :=
  (e.params.filter fun p => !p.indexed).map EventParam.ty

/-- The number of indexed parameters. -/
def indexedCount (e : Event) : Nat := e.indexed.length

/-- The topics that are taken up by the digest of the signature. -/
def signatureTopics (e : Event) : Nat := if e.anonymous then 0 else 1

/-- The number of topics of a log of the event. -/
def topicCount (e : Event) : Nat := e.indexedCount + e.signatureTopics

/-- The most indexed parameters that an event can have. -/
def mostIndexed (anonymous : Bool) : Nat := if anonymous then 4 else 3

/-- The event of a name and parameters that can be declared. -/
def declare (name : String) (params : List EventParam) (anonymous : Bool) :
    Except DescriptorFault Event := do
  checkName name
  checkParams (params.map EventParam.plain)
  let count := (params.filter EventParam.indexed).length
  if mostIndexed anonymous < count then
    .error (.tooManyIndexed name count (mostIndexed anonymous))
  return ⟨name, params, anonymous⟩

/-- The event of a declaration such as `event Paid(address indexed to, uint256) anonymous`. -/
def ofText (text : String) : Except DescriptorFault Event := do
  let parts ← Declaration.ofChars "event" text.toList
  let anonymous ←
    if parts.rest.isEmpty then .ok false
    else if parts.rest = "anonymous".toList then .ok true
    else .error (.afterEvent (String.ofList parts.rest) text)
  declare (String.ofList parts.name) (← paramList parts.params) anonymous

/-- The declaration of an event as text. -/
def text (e : Event) : String :=
  "event " ++ e.name ++ "(" ++ ", ".intercalate (e.params.map EventParam.text) ++ ")" ++
    if e.anonymous then " anonymous" else ""

/-- Arguments of parameters, taken from topics and from the values of the data. -/
def mergeArgs : List EventParam → (topics : List Hash) → (values : List Value) →
    Outcome (List DecodedParam)
  | [], _, _ => .ok []
  | p :: rest, topics, values =>
    if p.indexed then
      match topics with
      | [] => .error (.decode (.missingTopic p.name))
      | topic :: topics => do
        let arg ←
          if p.ty.isHashed then .ok (.hashed topic)
          else (decodeSingle p.ty (Word.bytes topic)).map .value
        return ⟨p.name, true, arg⟩ :: (← mergeArgs rest topics values)
    else
      match values with
      | [] => .error (.decode (.missingValue p.name))
      | v :: values => do return ⟨p.name, false, .value v⟩ :: (← mergeArgs rest topics values)

/-- Topics behind the digest of the signature, which they must begin with. -/
def argTopics (e : Event) (topics : List Hash) : Outcome (List Hash) :=
  if e.anonymous then .ok topics
  else match topics with
    | [] => .error (.topicMismatch (Word.hex e.topic) none)
    | first :: rest =>
      if first = e.topic then .ok rest
      else .error (.topicMismatch (Word.hex e.topic) (some (Word.hex first)))

/-- An outcome whose decoding faults are those of the data of an event. -/
def forData {α : Type} (signature : String) : Outcome α → Outcome α
  | .error (.decode fault) => .error (.decode (.eventData signature fault))
  | outcome => outcome

/-- The event that topics and data log. -/
def decodeLog (e : Event) (topics : List Hash) (data : Bytes) : Outcome DecodedEvent := do
  let args ← e.argTopics topics
  if topics.length ≠ e.topicCount then
    .error (.decode (.topicCount e.signature e.topicCount topics.length))
  let values ← forData e.signature (Abi.decode e.dataTypes data)
  let params ← mergeArgs e.params args values
  return { name := e.name, signature := e.signature, params }

/-- The event that a log holds, with its place on the chain. -/
def decode (e : Event) (log : Log) : Outcome DecodedEvent := do
  let decoded ← e.decodeLog log.topics log.data
  match log.logIndex with
  | some index =>
    if Machine.sizeLimit ≤ index then .error (.decode (.logIndex index))
  | none => pure ()
  return { decoded with
    address := some log.address
    blockNumber := log.blockNumber
    transactionHash := log.transactionHash
    logIndex := log.logIndex }

/-- The topic that stands for a value of an indexed parameter. Sequences and tuples have none. -/
def topicFor (ty : Ty) (value : Value) : Outcome Hash :=
  if value.ty ≠ ty then .error (.encode (.filterType value.ty ty))
  else match value with
    | .string s => .ok (keccak256 (Text.utf8 s))
    | .bytes octets => .ok (keccak256 octets)
    | _ =>
      if ty.isHashed then .error (.encode (.unfilterable ty))
      else do
        let word ← sliceTrapping (← encodeSingle value) 0 wordSize
        return Word.ofBytes word

/-- Slots with one of them set; there is no slot past the last. -/
def setSlot (slots : List (Option Hash)) (index : Nat) (topic : Hash) :
    Outcome (List (Option Hash)) :=
  if index < slots.length then .ok (slots.set index (some topic)) else .error .trap

/-- Slots with those of the wanted values set, from one on. -/
def setArgs (slots : List (Option Hash)) (index : Nat) :
    List EventParam → List (Option Value) → Outcome (List (Option Hash))
  | p :: params, wanted :: rest => do
    let slots ← match wanted with
      | none => .ok slots
      | some v => do setSlot slots index (← topicFor p.ty v)
    setArgs slots (index + 1) params rest
  | _, _ => .ok slots

/-- The query for logs of the event by a contract, with the wanted values of indexed parameters in
declared order. -/
def filter (e : Event) (address : Address) (wanted : List (Option Value)) : Outcome LogFilter := do
  if e.indexedCount < wanted.length then
    .error (.encode (.filterCount e.signature e.indexedCount wanted.length))
  let empty : List (Option Hash) := List.replicate topicSlots none
  let slots ← if e.anonymous then .ok empty else setSlot empty 0 e.topic
  let slots ← setArgs slots e.signatureTopics e.indexed wanted
  return { address, topics := slots }

end Event

end ContractToolkit.Interface
