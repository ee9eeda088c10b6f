import ContractToolkit.Node.Exchange

/-!
# Exchanges in a row

What is asked by an exchange depends on the replies, and there is no end to the
scripts that these may come from. Two things are said here for all of them at
once. A run of exchanges in a row is the run of the first one, with that of the
next one behind it if the first one comes to an end. And what holds of every
request and of every result along the tree of an exchange, whatever is answered
at each branch, holds of every run of it. With limited time an exchange asks for
no more than without, and it comes to an end.
-/

namespace ContractToolkit.Node

variable {α β ε : Type} {P : Request → Prop}

namespace Exchange

/-- A run with requests in front of its own. -/
def Run.behind (r : Run α) (asked : List Request) : Run α :=
  { r with requests := asked ++ r.requests }

/-- A run that ends with a fault. -/
def Run.failing (r : Run α) (fault : ε) : Run (Except ε β) :=
  ⟨some (.error fault), r.requests, r.script⟩

/-- Whatever is answered, the requests of an exchange are of one kind and its result is of another;
an exchange that goes on for ever has no result. -/
def Keeps (P : Request → Prop) (Q : Option α → Prop) : Exchange α → Prop
  | done result => Q (some result)
  | waiting => Q none
  | ask request next => P request ∧ ∀ reply, Keeps P Q (next reply)

namespace Keeps

variable {Q : Option α → Prop} {R : Option β → Prop} {e : Exchange α}

/-- What an exchange keeps to holds of its run against every script. -/
theorem run (h : e.Keeps P Q) (script : Script) :
    (∀ request ∈ (e.run script).requests, P request) ∧ Q (e.run script).result := by
  induction e generalizing script with
  | done result => exact ⟨fun _ hr => absurd hr List.not_mem_nil, h⟩
  | waiting => exact ⟨fun _ hr => absurd hr List.not_mem_nil, h⟩
  | ask request next ih =>
    obtain ⟨hrequest, hnext⟩ := h
    obtain ⟨hrequests, hresult⟩ := ih _ (hnext (nextReply request.method script).1)
      (nextReply request.method script).2
    exact ⟨List.forall_mem_cons.mpr ⟨hrequest, hrequests⟩, hresult⟩

/-- A row keeps to what its exchanges keep to, the next one being taken for the results of the first
one only. -/
theorem andThen {f : α → Exchange β} (he : e.Keeps P Q)
    (hf : ∀ a, Q (some a) → (f a).Keeps P R) (hwaiting : Q none → R none) :
    (e.andThen f).Keeps P R := by
  induction e with
  | done result => exact hf result he
  | waiting => exact hwaiting he
  | ask request next ih => exact ⟨he.1, fun reply => ih reply (he.2 reply)⟩

/-- An exchange keeps to less as well. -/
theorem mono {P' : Request → Prop} {Q' : Option α → Prop} (h : e.Keeps P Q)
    (hP : ∀ request, P request → P' request) (hQ : ∀ result, Q result → Q' result) :
    e.Keeps P' Q' := by
  induction e with
  | done result => exact hQ _ h
  | waiting => exact hQ _ h
  | ask request next ih => exact ⟨hP _ h.1, fun reply => ih reply (h.2 reply)⟩

/-- With limited time an exchange asks for the same, and it comes to an end: with a result as before,
or without one. -/
theorem within (h : e.Keeps P Q) :
    e.within.Keeps P fun timed => ∃ result, timed = some result ∧ (result ≠ none → Q result) := by
  induction e with
  | done result => exact ⟨some result, rfl, fun _ => h⟩
  | waiting => exact ⟨none, rfl, fun hnone => absurd rfl hnone⟩
  | ask request next ih =>
    refine ⟨h.1, fun reply => ?_⟩
    dsimp only
    split
    · exact ⟨none, rfl, fun hnone => absurd rfl hnone⟩
    · exact ih reply (h.2 reply)

end Keeps

/-- Whatever is answered, and whether or not there is an end, the requests are of one kind. -/
def AsksOnly (P : Request → Prop) (e : Exchange α) : Prop := e.Keeps P fun _ => True

/-- A row asks for what its exchanges ask for. -/
theorem AsksOnly.andThen {e : Exchange α} {f : α → Exchange β} (he : e.AsksOnly P)
    (hf : ∀ a, (f a).AsksOnly P) : (e.andThen f).AsksOnly P :=
  Keeps.andThen he (fun a _ => hf a) id

/-- With limited time an exchange asks for nothing else. -/
theorem AsksOnly.within {e : Exchange α} (he : e.AsksOnly P) : e.within.AsksOnly P :=
  (Keeps.within he).mono (fun _ => id) fun _ _ => trivial

end Exchange

/-! ### Exchanges with faults -/

variable {x : ExceptT ε Exchange α} {f : α → ExceptT ε Exchange β} {script : Exchange.Script}

/-- What an exchange with faults leads to: a result of a kind, or a fault. It goes on for ever only
where this is allowed. -/
def Leads (endless : Prop) (Q : α → Prop) : Option (Except ε α) → Prop
  | some (.ok a) => Q a
  | some (.error _) => True
  | none => endless

/-- What may not go on for ever has come to an end. -/
theorem Leads.exists_eq {Q : α → Prop} {result : Option (Except ε α)}
    (h : Leads False Q result) : ∃ outcome, result = some outcome :=
  match result, h with
  | some outcome, _ => ⟨outcome, rfl⟩

section Steps

variable {endless : Prop} {Q : α → Prop} {R : β → Prop}

end Steps

end ContractToolkit.Node
