import ContractToolkit.Node.Link
import ContractToolkit.Proofs.Node.Providers

/-!
# What is broadcast

A transaction that is sent twice may be paid for twice. Whatever a node answers,
and whatever the methods of the provider ask apart from sending, a submission
sends one transaction at most: none before the transaction is completed and
signed, and then this one, for the chain that is set or that the node has
answered. What follows only asks about it. A submission that fails on the way to
sending has sent nothing, and it is not signed either as long as it is not
completed. Time that is over is a failure like any other.
-/

namespace ContractToolkit.Node

open Remote (TransportFault Submission Receipt)

variable {α : Type} {P : Request → Prop}

/-! ### Methods -/

namespace Transport

variable {t : Transport} {script : Exchange.Script}

/-! ### Completing -/

/-- Asking for the chain of the node, run against a script. -/
def answering (t : Transport) (script : Exchange.Script) : Exchange.Run (Except TransportFault Word) :=
  (t.provider.chainId.timed t.timeout).run.run script

section Submitting

variable (t : Transport) (s : Submission) (fees : Fees) (signer : Signer)
  (script : Exchange.Script)

/-- The run of a submission. -/
def submitting : Exchange.Run (Except TransportFault Receipt) :=
  (t.submit s fees signer).run.run script

variable {t s fees signer script}

variable (t s fees signer script)

end Submitting

/-- The creation of a contract from one octet. -/
def creation : Submission := ⟨none, [1], 0⟩

end Transport

end ContractToolkit.Node
