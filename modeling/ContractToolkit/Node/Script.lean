import ContractToolkit.Node.Exchange

/-!
# Scripts of nodes

The replies of a node as JSON: an object has the replies for each method in
order. A reply is an object with a result or an error, or a text that is taken as
the body of a response.
-/

namespace ContractToolkit.Node

/-- The reply that a JSON value stands for. -/
def Reply.ofJson : Json → Reply
  | .string body => .ofBody body
  | j =>
    match j.field? "error", j.field? "result" with
    | some description, _ => (errorReply? description).getD .unreadable
    | none, some value => .result value
    | none, none => .unreadable

/-- The script that a JSON value stands for. -/
def Exchange.Script.ofJson : Json → Exchange.Script
  | .object fields =>
    fields.map fun (method, replies) => (method, (replies.items?.getD []).map Reply.ofJson)
  | _ => []

end ContractToolkit.Node
