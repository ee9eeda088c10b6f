import ContractToolkit.Remote.Request

/-!
# Remote operations

An operation that may ask a node is a tree: it is done, or it asks and goes on
with the answer. Nothing is asked before the operation is run, and running it
again asks again. Here it is run against a script: replies in the order in which
they are given, whatever is asked. A reply of another kind than asked for is used
up, and counts as none.
-/

namespace ContractToolkit

open Remote

/-- An operation that may ask a node. -/
inductive Remote (α : Type) where
  /-- The operation is done. -/
  | done (result : α)
  /-- A call is simulated. -/
  | call (request : CallRequest) (block : Block) (next : Except TransportFault Bytes → Remote α)
  /-- A transaction is submitted. -/
  | submit (submission : Submission) (fees : Fees) (signer : Signer)
      (next : Except TransportFault Receipt → Remote α)
  /-- Logs are looked for. -/
  | logs (filter : LogFilter) (next : Except TransportFault (List Log) → Remote α)

namespace Remote

/-- The operation with its result changed. -/
def map {α β : Type} (f : α → β) : Remote α → Remote β
  | done result => done (f result)
  | call request block next => call request block fun answer => map f (next answer)
  | submit submission fees signer next =>
    submit submission fees signer fun answer => map f (next answer)
  | logs filter next => logs filter fun answer => map f (next answer)

/-- What running an operation has led to. -/
structure Run (α : Type) where
  /-- The result. -/
  result : α
  /-- What was asked, in order. -/
  requests : List Request
  /-- The replies that are left. -/
  replies : List Reply

/-- A run with a request in front. -/
def Run.after {α : Type} (r : Run α) (request : Request) : Run α :=
  { r with requests := request :: r.requests }

/-- The answer that the next of the replies gives. -/
def nextAnswer {β : Type} (read : Reply → Except TransportFault β) (replies : List Reply) :
    Except TransportFault β :=
  match replies with
  | [] => .error unanswered
  | reply :: _ => read reply

/-- The operation run against a script. -/
def run {α : Type} : Remote α → (replies : List Reply) → Run α
  | done result, replies => ⟨result, [], replies⟩
  | call request block next, replies =>
    (run (next (nextAnswer Reply.returned? replies)) replies.tail).after (.call request block)
  | submit submission fees signer next, replies =>
    (run (next (nextAnswer Reply.mined? replies)) replies.tail).after
      (.submit submission fees signer)
  | logs filter next, replies =>
    (run (next (nextAnswer Reply.found? replies)) replies.tail).after (.logs filter)

/-- Changing the result leaves everything else that a run does. -/
theorem run_map {α β : Type} (f : α → β) (p : Remote α) (replies : List Reply) :
    (p.map f).run replies =
      ⟨f (p.run replies).result, (p.run replies).requests, (p.run replies).replies⟩ := by
  induction p generalizing replies with
  | done result => rfl
  | call request block next ih => simp [map, run, Run.after, ih]
  | submit submission fees signer next ih => simp [map, run, Run.after, ih]
  | logs filter next ih => simp [map, run, Run.after, ih]

end Remote

end ContractToolkit
