import ContractToolkit.Node.JsonRpc
import ContractToolkit.Proofs.Node.Exchanges

/-!
# What the methods of a provider ask

The methods of a provider are its own, and only this much is relied upon: sending
a signed transaction asks for that once, all other methods ask for something else,
and filling in what a transaction leaves open does not touch its chain. The
provider over JSON-RPC is one of which this holds.
-/

namespace ContractToolkit.Node

open Remote (Receipt)

/-- Whether a request sends a signed transaction. -/
def Request.isBroadcast (r : Request) : Bool := r.method == "eth_sendRawTransaction"

/-- A request that sends nothing. -/
def Request.Quiet (r : Request) : Prop := r.isBroadcast = false

/-- The request that sends a signed transaction. -/
def broadcastRequest (raw : Bytes) : Request :=
  ⟨"eth_sendRawTransaction", some [.string raw.hex]⟩

variable {α β ε : Type}

/-- An exchange that sends a signed transaction first, and nothing later. -/
inductive Exchange.Sends (raw : Bytes) : Exchange α → Prop
  | intro {next : Reply → Exchange α} (later : ∀ reply, (next reply).AsksOnly Request.Quiet) :
      Sends raw (ask (broadcastRequest raw) next)

namespace Exchange.Sends

variable {raw : Bytes} {e : Exchange α}

/-- What follows on sending may go on with what sends nothing. -/
theorem andThen {f : α → Exchange β} (h : e.Sends raw)
    (hf : ∀ a, (f a).AsksOnly Request.Quiet) : (e.andThen f).Sends raw := by
  obtain ⟨later⟩ := h
  exact .intro fun reply => (later reply).andThen hf

/-- With limited time the transaction is sent as well. -/
theorem within (h : e.Sends raw) : e.within.Sends raw := by
  obtain ⟨later⟩ := h
  refine .intro fun reply => ?_
  split
  · trivial
  · exact (later reply).within

/-- One request of a run sends the transaction, the first one. -/
theorem run (h : e.Sends raw) (script : Script) :
    ∃ later, (e.run script).requests = broadcastRequest raw :: later ∧ ∀ r ∈ later, r.Quiet := by
  obtain ⟨later⟩ := h
  exact ⟨_, rfl, ((later _).run _).1⟩

end Exchange.Sends

variable {P : Request → Prop}

end ContractToolkit.Node
