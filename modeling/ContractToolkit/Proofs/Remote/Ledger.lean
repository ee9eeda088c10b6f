import ContractToolkit.Proofs.Remote.Requests
import Mathlib.Data.List.Forall2

/-!
# What sessions ask

A session can be told without any reply, in a ledger: for each kept call the
contract and the action that it was prepared with, which fix what it asks, and
these again for each call that was sent. The session asks just that, one thing
for each sending and in the order of the sendings; preparing, refusing, copying
and working on an answer ask nothing, and nothing is asked again.
-/

namespace ContractToolkit.Session

open Remote Outcome

/-- What a call was prepared with. -/
structure Origin where
  /-- The contract, with the client that it had. -/
  contract : Contract
  /-- The action. -/
  action : Action

namespace Origin

/-- What is fixed to be asked when a call is prepared. -/
def request? (o : Origin) : Option Request :=
  match o.contract.prepare o.action with
  | .ok c => c.operation.first?
  | .error _ => none

/-- A call that asks the one thing that was fixed when a call was prepared. -/
def Fixes (o : Origin) (c : Call Answer) : Prop :=
  ∃ request, o.request? = some request ∧ Asks request c.operation

variable {o : Origin} {c : Call Answer}

/-- A prepared call asks what was fixed with it. -/
theorem fixes (h : o.contract.prepare o.action = .ok c) : o.Fixes c := by
  obtain ⟨request, -, hasks⟩ := o.contract.prepare_asks o.action c h
  refine ⟨request, ?_, hasks⟩
  rw [request?, h]
  exact hasks.first?_eq

/-- What was fixed is of the kind that the action prepares. -/
theorem of_prepares {P : Request → Prop} (h : Prepares P (o.contract.prepare o.action))
    {request : Request} (hrequest : o.request? = some request) : P request := by
  rw [request?] at hrequest
  split at hrequest
  · rename_i c hprepared
    obtain ⟨asked, hasked, hasks⟩ := h c hprepared
    obtain rfl := Option.some.inj (hasks.first?_eq.symm.trans hrequest)
    exact hasked
  · cases hrequest

/-- A call whose answer is worked on further asks the same. -/
theorem Fixes.map (h : o.Fixes c) (f : Answer → Outcome Answer) : o.Fixes (c.map f) := by
  obtain ⟨request, hrequest, hasks⟩ := h
  exact ⟨request, hrequest, hasks.map _⟩

end Origin

/-- A session as it can be told before any reply comes. -/
structure Ledger where
  /-- The contract that is worked with. -/
  contract : Contract
  /-- What the kept calls were prepared with. -/
  kept : List Origin := []
  /-- What the calls were prepared with that were sent, in the order of the sendings. -/
  sent : List Origin := []

namespace Ledger

/-- The ledger with one more kept call, if there is one. -/
def keep (l : Ledger) (origin? : Option Origin) : Ledger :=
  { l with kept := l.kept ++ origin?.toList }

/-- The ledger after a step. A copy, or a call that is worked on further, was prepared as the call
that it comes from. -/
def step (l : Ledger) : Step → Ledger
  | .prepare action =>
    match l.contract.prepare action with
    | .ok _ => l.keep (some ⟨l.contract, action⟩)
    | .error _ => l
  | .map index _ => l.keep l.kept[index]?
  | .copy index => l.keep l.kept[index]?
  | .send index => { l with sent := l.sent ++ l.kept[index]?.toList }
  | .withSigner signer => { l with contract := l.contract.withSigner signer }
  | .withCaller caller => { l with contract := l.contract.withCaller caller }
  | .use contract => { l with contract }

end Ledger

/-- A session that does what a ledger says, and uses up one reply of its script for each sending. -/
structure Follows (script : List Reply) (s : Session) (l : Ledger) : Prop where
  /-- Both work with the same contract. -/
  contract : s.contract = l.contract
  /-- Each kept call asks what was fixed for it. -/
  calls : l.kept.Forall₂ Origin.Fixes s.calls
  /-- What was asked is what was fixed for the calls that were sent. -/
  requests : s.requests.map some = l.sent.map Origin.request?
  /-- The replies that are left are those behind the used ones. -/
  replies : s.replies = script.drop l.sent.length

namespace Follows

variable {script : List Reply} {s : Session} {l : Ledger} {c : Call Answer} {o : Origin}

/-- A session that has just been opened has neither kept nor asked anything. -/
theorem opened (contract : Contract) (script : List Reply) :
    Follows script { contract, replies := script } { contract } where
  contract := rfl
  calls := .nil
  requests := rfl
  replies := rfl

/-- Under a number there is a kept call exactly when the ledger has one. -/
theorem getElem? (h : Follows script s l) (index : Nat) :
    (s.calls[index]? = none ∧ l.kept[index]? = none) ∨
      ∃ c o, s.calls[index]? = some c ∧ l.kept[index]? = some o ∧ o.Fixes c := by
  have hlength := h.calls.length_eq
  cases ho : l.kept[index]? with
  | none =>
    rw [List.getElem?_eq_none_iff, hlength] at ho
    exact .inl ⟨List.getElem?_eq_none_iff.mpr ho, rfl⟩
  | some o =>
    obtain ⟨hindex, rfl⟩ := List.getElem?_eq_some_iff.mp ho
    have hcall : index < s.calls.length := hlength ▸ hindex
    exact .inr ⟨_, _, List.getElem?_eq_getElem hcall, rfl, h.calls.get hindex hcall⟩

/-- A call is kept together with what it was prepared with. -/
theorem keep (h : Follows script s l) (hfixes : o.Fixes c) :
    Follows script (s.keep c).1 (l.keep (some o)) where
  contract := h.contract
  calls := List.rel_append h.calls (.cons hfixes .nil)
  requests := h.requests
  replies := h.replies

/-- A kept call is kept once more, worked on further or as it is. -/
theorem keepAgain (h : Follows script s l) (work : Call Answer → Call Answer)
    (hwork : ∀ o c, Origin.Fixes o c → o.Fixes (work c)) (index : Nat) :
    Follows script
      (match s.calls[index]? with
        | some c => s.keep (work c)
        | none => (s, .noCall)).1
      (l.keep l.kept[index]?) := by
  obtain ⟨hcall, horigin⟩ | ⟨c, o, hcall, horigin, hfixes⟩ := h.getElem? index
  · rw [hcall, horigin, Ledger.keep, Option.toList_none, List.append_nil]
    exact h
  · rw [hcall, horigin]
    exact h.keep (hwork o c hfixes)

/-- Sending a call asks what was fixed for it, once. -/
theorem send (h : Follows script s l) (hfixes : o.Fixes c) :
    Follows script (s.sendCall c).1 { l with sent := l.sent ++ [o] } := by
  obtain ⟨request, hrequest, hasks⟩ := hfixes
  obtain ⟨hrequests, hreplies⟩ := hasks s.replies
  refine ⟨h.contract, h.calls, ?_, ?_⟩
  · rw [sendCall, hrequests, List.map_append, List.map_append, h.requests, List.map_singleton,
      List.map_singleton, hrequest]
  · rw [sendCall, hreplies, h.replies, List.tail_drop, List.length_append, List.length_singleton]

/-- One step takes a session along its ledger. -/
theorem step (h : Follows script s l) (next : Step) :
    Follows script (s.step next).1 (l.step next) := by
  cases next with
  | prepare action =>
    rw [Session.step, Ledger.step, h.contract]
    -- Whether a call is prepared depends on the contract and the action, and on no reply.
    cases hprepared : l.contract.prepare action with
    | ok c => exact h.keep (Origin.fixes hprepared)
    | error error => exact h
  | map index f => exact h.keepAgain (·.map f) (fun _ _ hfixes => hfixes.map f) index
  | copy index => exact h.keepAgain (fun c => c) (fun _ _ hfixes => hfixes) index
  | send index =>
    rw [Session.step, Ledger.step]
    obtain ⟨hcall, horigin⟩ | ⟨c, o, hcall, horigin, hfixes⟩ := h.getElem? index
    · rw [hcall, horigin, Option.toList_none, List.append_nil]
      exact h
    · rw [hcall, horigin]
      exact h.send hfixes
  | withSigner signer => exact { h with contract := congrArg (·.withSigner signer) h.contract }
  | withCaller caller => exact { h with contract := congrArg (·.withCaller caller) h.contract }
  | use contract => exact { h with contract := rfl }

/-- Steps in a row take a session along its ledger. -/
theorem runSteps (h : Follows script s l) (steps : List Step) :
    Follows script (s.runSteps steps).1 (steps.foldl Ledger.step l) := by
  induction steps generalizing s l with
  | nil => exact h
  | cons next rest ih => exact ih (h.step next)

/-- What a session asks was fixed for the call that was sent then. -/
theorem exists_sent (h : Follows script s l) {n : Nat} {request : Request}
    (hn : s.requests[n]? = some request) :
    ∃ o, l.sent[n]? = some o ∧ o.request? = some request := by
  have hasked : (s.requests.map some)[n]? = some (some request) := by
    rw [List.getElem?_map, hn, Option.map_some]
  rw [h.requests, List.getElem?_map] at hasked
  exact Option.map_eq_some_iff.mp hasked

/-- Each call that was sent has asked what was fixed for it, in its place. -/
theorem exists_asked (h : Follows script s l) {n : Nat} (hn : l.sent[n]? = some o) :
    ∃ request, s.requests[n]? = some request ∧ o.request? = some request := by
  have hfixed : (l.sent.map Origin.request?)[n]? = some o.request? := by
    rw [List.getElem?_map, hn, Option.map_some]
  rw [← h.requests, List.getElem?_map] at hfixed
  obtain ⟨request, hrequest, hsome⟩ := Option.map_eq_some_iff.mp hfixed
  exact ⟨request, hrequest, hsome.symm⟩

end Follows

/-- Whatever the replies are, a session asks one thing for each call that it sends, in the order of
the sendings: what was fixed when that call was prepared, or the one that it is a copy of or was
worked on from. It asks nothing else, and every sending uses up one reply. -/
theorem requests_eq_sent (contract : Contract) (script : List Reply) (steps : List Step) :
    let final := (({ contract, replies := script } : Session).runSteps steps).1
    let ledger := steps.foldl Ledger.step { contract }
    final.requests.map some = ledger.sent.map Origin.request? ∧
      final.replies = script.drop ledger.sent.length ∧
      ledger.kept.Forall₂ Origin.Fixes final.calls := by
  intro final ledger
  have hfollows := (Follows.opened contract script).runSteps steps
  exact ⟨hfollows.requests, hfollows.replies, hfollows.calls⟩

end ContractToolkit.Session
