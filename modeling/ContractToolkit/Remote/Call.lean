import ContractToolkit.Error
import ContractToolkit.Remote.Basic

/-!
# Prepared calls

A call of a contract that is ready to be sent, under the signature that it goes
by. It can be kept, copied and sent as often as wanted; each time it is a new
operation, and none is tried again when it fails.
-/

namespace ContractToolkit

/-- A prepared call. -/
structure Call (α : Type) where
  /-- What is called. -/
  label : String
  /-- The operation that sending it starts. -/
  operation : Remote (Outcome α)

namespace Call

/-- The call whose result, if there is one, is worked on further. -/
def map {α β : Type} (f : α → Outcome β) (c : Call α) : Call β :=
  ⟨c.label, c.operation.map fun outcome => outcome.bind f⟩

/-- The call for a reader. -/
def text {α : Type} (c : Call α) : String :=
  "CallHandle \x7b label: " ++ Text.quoted c.label ++ " \x7d"

end Call

end ContractToolkit
