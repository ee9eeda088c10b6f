import ContractToolkit.Json.Reader

/-!
# Exchanges with a node

What is asked of a node over JSON-RPC, one request after another. A node answers
with a result, with an error, or with something that cannot be read; it may also
not be reached, or not answer in time. An exchange may wait for something that
never happens, unless its time is limited. Here it is run against a script that
has the replies for each method in order; where none is left the node answers
with an error.
-/

namespace ContractToolkit.Node

/-- The reply of a node. -/
inductive Reply where
  /-- A result. -/
  | result (value : Json)
  /-- An error. -/
  | error (code : Int) (message : String) (data : Option Json)
  /-- Something else. -/
  | unreadable
  /-- None, because the node is not reached. -/
  | unreachable (cause : String)
  /-- None in the time that there is for it. -/
  | late
  deriving Inhabited

/-- Whether there is no reply in time. -/
def Reply.isLate : Reply → Bool
  | late => true
  | _ => false

/-- A request to a node. -/
structure Request where
  /-- The method. -/
  method : String
  /-- The parameters, if it takes any. -/
  params : Option (List Json)

/-- Requests to a node, each with what follows on its reply. -/
inductive Exchange (α : Type) where
  /-- The exchange is over. -/
  | done (result : α)
  /-- Something is asked. -/
  | ask (request : Request) (next : Reply → Exchange α)
  /-- The exchange goes on for ever. -/
  | waiting

namespace Exchange

/-- An exchange that goes on where another is over. -/
def andThen {α β : Type} : Exchange α → (α → Exchange β) → Exchange β
  | done result, f => f result
  | ask request next, f => ask request fun reply => andThen (next reply) f
  | waiting, _ => waiting

instance : Monad Exchange where
  pure := done
  bind := andThen

/-- An exchange with limited time. It is given up, without a result, where a reply is late or where
it would go on for ever. -/
def within {α : Type} : Exchange α → Exchange (Option α)
  | done result => done (some result)
  | waiting => done none
  | ask request next => ask request fun reply =>
    if reply.isLate then done none else within (next reply)

/-- The replies that a script has left, by method. -/
abbrev Script := List (String × List Reply)

/-- The reply of a node that has none left. -/
def noReply : Reply := .error (-1) "no scripted reply" none

/-- The next reply to a method, and the script without it. -/
def nextReply (method : String) : Script → Reply × Script
  | [] => (noReply, [])
  | (name, replies) :: rest =>
    if name = method then (replies.headD noReply, (name, replies.tail) :: rest)
    else
      let (reply, rest) := nextReply method rest
      (reply, (name, replies) :: rest)

/-- What running an exchange has led to. -/
structure Run (α : Type) where
  /-- The result; absent when the exchange goes on for ever. -/
  result : Option α
  /-- What was asked, in order. -/
  requests : List Request
  /-- The script that is left. -/
  script : Script

/-- The exchange run against a script. -/
def run {α : Type} : Exchange α → Script → Run α
  | done result, script => ⟨some result, [], script⟩
  | waiting, script => ⟨none, [], script⟩
  | ask request next, script =>
    let (reply, script) := nextReply request.method script
    let after := run (next reply) script
    { after with requests := request :: after.requests }

/-- The result of an exchange with a node that is not reached, for a cause. -/
def runUnreached {α : Type} (cause : String) : Exchange α → Option α
  | done result => some result
  | waiting => none
  | ask _ next => runUnreached cause (next (.unreachable cause))

end Exchange

/-- The fields of a response, each at most once and none but the known ones. -/
def responseFields? (known : List String) : JsonDraft → Option (List (String × JsonDraft))
  | .object fields => do
    let fields ← fields.mapM fun (key, d) => key.map fun key => (key, d)
    if fields.all (fun field => known.contains field.1) ∧ (fields.map (·.1)).Nodup then some fields
    else none
  | _ => none

/-- The error in a response. -/
def errorReply? (j : Json) : Option Reply := do
  let code ← (j.field? "code").bind Json.signed?
  let message ← (j.field? "message").bind Json.text?
  let data := match j.field? "data" with
    | some .null => none
    | other => other
  return .error code message data

/-- The reply that a response stands for: it has a version, a number, and either a result or an
error. -/
def Reply.ofBody? (body : String) : Option Reply := do
  let fields ← responseFields? ["id", "jsonrpc", "result", "error", "params", "method"]
    (← JsonDraft.ofText body)
  let value (key : String) : Option Json :=
    (fields.lookup key).bind fun d => d.value? Json.maxDepth
  let _ ← (value "jsonrpc").bind Json.text?
  let _ ← (value "id").bind Json.unsigned?
  if (fields.lookup "method").isSome ∨ (fields.lookup "params").isSome then none
  match fields.lookup "result", fields.lookup "error" with
  | some _, none => (value "result").map .result
  | none, some _ => (value "error").bind errorReply?
  | _, _ => none

/-- The reply that the body of a response stands for. -/
def Reply.ofBody (body : String) : Reply := (Reply.ofBody? body).getD .unreadable

end ContractToolkit.Node
