import ContractToolkit.Interface.CustomError
import ContractToolkit.Interface.Event

/-!
# The interface of a contract

The constructor, functions, events and errors of one contract, in the order in
which they were last declared: a function or an error replaces the one with the
same signature, an event the one with the same signature that is as anonymous
as it. Functions and events are found by name, where the name is enough, or by
signature; logs find their event by their first topic, or by the number of
their topics.
-/

namespace ContractToolkit

open Abi Interface

/-- The interface of a contract. -/
structure Interface where
  /-- The constructor, if one is declared. -/
  constructor? : Option Constructor
  /-- The functions. -/
  methods : List Method
  /-- The events. -/
  events : List Event
  /-- The errors. -/
  errors : List CustomError
  deriving DecidableEq

namespace Interface

/-- The interface that declares nothing. -/
def empty : Interface := ⟨none, [], [], []⟩

/-- The interface with a constructor, in place of any other. -/
def setConstructor (i : Interface) (c : Constructor) : Interface :=
  { i with constructor? := some c }

/-- The interface with a function at the end. -/
def addMethod (i : Interface) (m : Method) : Interface :=
  { i with methods := i.methods.filter (fun other => other.signature ≠ m.signature) ++ [m] }

/-- The interface with an event at the end. -/
def addEvent (i : Interface) (e : Event) : Interface :=
  { i with events := i.events.filter (fun other =>
      other.signature ≠ e.signature ∨ other.anonymous ≠ e.anonymous) ++ [e] }

/-- The interface with an error at the end. -/
def addError (i : Interface) (e : CustomError) : Interface :=
  { i with errors := i.errors.filter (fun other => other.signature ≠ e.signature) ++ [e] }

/-- The canonical signature of a written one, with or without names and in any spelling of types. -/
def canonicalSignature (key : List Char) : Except DescriptorFault String := do
  let parts ← Declaration.ofChars "" key
  let params ← paramList parts.params
  return Abi.signature (String.ofList parts.name) (params.map EventParam.ty)

/-- The member that a key stands for: a signature where it has a parenthesis, else a name that only
one member has. -/
def find {α : Type} (kind : String) (name signature : α → String) (members : List α)
    (key : String) : Except DescriptorFault α :=
  if key.toList.contains '(' then do
    let wanted ← canonicalSignature key.toList
    match members.find? (fun member => signature member = wanted) with
    | some member => .ok member
    | none => .error (.unknownMember kind key)
  else match members.filter (fun member => name member = key) with
    | [] => .error (.unknownMember kind key)
    | [member] => .ok member
    | _ => .error (.overloaded kind key)

/-- The function that a name or a signature stands for. -/
def method (i : Interface) (key : String) : Except DescriptorFault Method :=
  find "function" Method.name Method.signature i.methods key

/-- The event that a name or a signature stands for. -/
def event (i : Interface) (key : String) : Except DescriptorFault Event :=
  find "event" Event.name Event.signature i.events key

/-- The first function with a selector. -/
def methodBySelector? (i : Interface) (selector : Selector) : Option Method :=
  i.methods.find? (·.selector = selector)

/-- The first event whose logs begin with a topic. -/
def eventByTopic? (i : Interface) (topic : Hash) : Option Event :=
  i.events.find? fun e => !e.anonymous && e.topic = topic

/-- The anonymous events whose logs have so many topics. -/
def anonymousEvents (i : Interface) (count : Nat) : List Event :=
  i.events.filter fun e => e.anonymous && e.topicCount = count

/-- The event that logs with the topics belong to: that of the first topic, or else the only
anonymous event whose logs have as many. -/
def eventFor? (i : Interface) (topics : List Hash) : Option Event :=
  match topics.head?.bind i.eventByTopic? with
  | some e => some e
  | none =>
    match i.anonymousEvents topics.length with
    | [e] => some e
    | _ => none

/-- The event that a log holds. -/
def decodeLog (i : Interface) (log : Log) : Outcome DecodedEvent :=
  match i.eventFor? log.topics with
  | some e => e.decode log
  | none =>
    .error (.topicMismatch "an event declared by the contract" (log.topics.head?.map Word.hex))

/-- Whether a log is one of those of an address, if only those are wanted. -/
def isFrom (address : Option Address) (log : Log) : Bool :=
  match address with
  | some a => a = log.address
  | none => true

/-- The events that logs hold, those of other addresses and of no declared event being passed over.
-/
def decodeReceipt (i : Interface) (address : Option Address) :
    List Log → Outcome (List DecodedEvent)
  | [] => .ok []
  | log :: rest =>
    if isFrom address log then
      match i.eventFor? log.topics with
      | some e => do
        let decoded ← e.decode log
        return decoded :: (← i.decodeReceipt address rest)
      | none => i.decodeReceipt address rest
    else i.decodeReceipt address rest

/-- The reason that revert data gives. -/
def revertReason (i : Interface) (data : Bytes) : String := Interface.reasonOf i.errors data

/-- The function that call data selects, and its arguments. -/
def decodeCalldata (i : Interface) (calldata : Bytes) : Outcome (String × List Value) :=
  if calldata.length < 4 then .error (.decode .shortCall)
  else
    let selector := Selector.ofBytes (calldata.take 4)
    match i.methodBySelector? selector with
    | some m => do return (m.signature, ← m.decodeInput calldata)
    | none => .error (.descriptor (.unknownSelector (calldata.take 4)))

end Interface

end ContractToolkit
