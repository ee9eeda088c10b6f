import ContractToolkit.Proofs.Remote.Ledger

/-!
# Functions that only read

Where a call is simulated or submitted as its function demands, and where it is
only simulated, nothing is ever submitted for a function that only reads. The calls
that submit do not look at this: they submit for such a function too. A session has
therefore submitted nothing for functions that only read exactly when it has sent
no call of these.
-/

namespace ContractToolkit

open Abi Interface Remote Outcome

/-- A request that has a call simulated. -/
def Remote.Request.Simulates : Request → Prop
  | .call _ _ => True
  | _ => False

namespace Session

/-- The key of the function that an action calls. -/
def Action.key? : Action → Option String
  | .call key _ => some key
  | .callAt key _ _ => some key
  | .send key _ => some key
  | .sendWithValue key _ _ => some key
  | .dispatch key _ => some key
  | _ => none

/-- Whether an action submits whatever the function demands. -/
def Action.insists : Action → Bool
  | .send _ _ => true
  | .sendWithValue _ _ _ => true
  | _ => false

/-- A function is what a call was prepared to call. -/
def Origin.Calls (o : Origin) (m : Method) : Prop :=
  ∃ key, o.action.key? = some key ∧ o.contract.interface.method key = .ok m

variable {o : Origin} {m : Method}

/-- A simulated call asks to be simulated. -/
theorem readAt_simulates (c : Client) (m : Method) (address : Address) (args : List Value)
    (block : Block) : Prepares Request.Simulates (c.readAt m address args block) :=
  .bind fun _ _ => .ok (.call _ block _) trivial

/-- An action that does not insist has a function that only reads simulated. -/
theorem Origin.Calls.simulates (h : o.Calls m) (hread : m.mutability = .read)
    (hroutes : o.action.insists = false) :
    Prepares Request.Simulates (o.contract.prepare o.action) := by
  obtain ⟨c, action⟩ := o
  obtain ⟨key, hkey, hm⟩ := h
  cases action with
  | call function args => exact .map (.bind fun _ _ => readAt_simulates _ _ _ _ _) _
  | callAt function args block => exact .map (.bind fun _ _ => readAt_simulates _ _ _ _ _) _
  | dispatch function args =>
    refine .map (.bind fun routed hrouted => ?_) _
    -- The function that the key stands for is the one that only reads.
    obtain rfl := Option.some.inj hkey
    obtain rfl := Except.ok.inj (hm.symm.trans (ofDescriptor_eq_ok.mp hrouted))
    rw [Client.dispatch, if_pos hread]
    exact .map (readAt_simulates _ _ _ _ _) _
  | send function args => cases hroutes
  | sendWithValue function args value => cases hroutes
  | _ => cases hkey

/-- An action that insists has any function submitted. -/
theorem Origin.Calls.submits (h : o.Calls m) (hinsists : o.action.insists = true) :
    Prepares (fun request => ∃ submission fees signer, request = .submit submission fees signer)
      (o.contract.prepare o.action) := by
  obtain ⟨c, action⟩ := o
  obtain ⟨key, hkey, hm⟩ := h
  have hintent : ∃ x, c.intent? action = some x := by
    cases action with
    | send function args =>
      obtain rfl := Option.some.inj hkey
      exact ⟨_, by rw [Contract.intent?, Contract.calling?, hm]⟩
    | sendWithValue function args value =>
      obtain rfl := Option.some.inj hkey
      exact ⟨_, by rw [Contract.intent?, Contract.calling?, hm]⟩
    | _ => cases hinsists
  obtain ⟨x, hx⟩ := hintent
  refine (Contract.prepare_rules hx).asks.mono ?_
  rintro request ⟨submission, fees, signer, hrequest, -⟩
  exact ⟨submission, fees, signer, hrequest⟩

/-- Whatever the replies are, a session has functions that only read simulated by every call that
does not insist on submitting, and it has submitted nothing for such a function exactly when it has
sent no call of one that insists. -/
theorem reads_submitted_only_by_insisting (contract : Contract) (script : List Reply)
    (steps : List Step) :
    let final := (({ contract, replies := script } : Session).runSteps steps).1
    let ledger := steps.foldl Ledger.step { contract }
    (∀ (n : Nat) (o : Origin) (m : Method) (request : Request), ledger.sent[n]? = some o →
        o.Calls m → m.mutability = .read → o.action.insists = false →
        final.requests[n]? = some request → request.Simulates) ∧
      ((∀ (n : Nat) (o : Origin) (m : Method) (submission : Submission) (fees : Fees)
          (signer : Signer), ledger.sent[n]? = some o → o.Calls m →
          final.requests[n]? = some (.submit submission fees signer) → m.mutability ≠ .read) ↔
        ∀ o ∈ ledger.sent, ∀ m, o.Calls m → m.mutability = .read → o.action.insists = false) := by
  intro final ledger
  have hfollows := (Follows.opened contract script).runSteps steps
  have hsimulated : ∀ (n : Nat) (o : Origin) (m : Method) (request : Request),
      ledger.sent[n]? = some o → o.Calls m → m.mutability = .read → o.action.insists = false → final.requests[n]? = some request →
        request.Simulates := by
    intro n o m request hsent hcalls hread hroutes hn
    obtain ⟨asked, hasked, hfixed⟩ := hfollows.exists_asked hsent
    obtain rfl := Option.some.inj (hasked.symm.trans hn)
    exact Origin.of_prepares (hcalls.simulates hread hroutes) hfixed
  refine ⟨hsimulated, ?_, ?_⟩
  · intro hnone o ho m hcalls hread
    obtain ⟨n, hn⟩ := List.mem_iff_getElem?.mp ho
    obtain ⟨asked, hasked, hfixed⟩ := hfollows.exists_asked hn
    cases hinsists : o.action.insists with
    | false => rfl
    | true =>
      obtain ⟨submission, fees, signer, rfl⟩ := Origin.of_prepares (hcalls.submits hinsists) hfixed
      exact absurd hread (hnone n o m submission fees signer hn hcalls hasked)
  · intro hroutes n o m submission fees signer hsent hcalls hn hread
    have ho := List.mem_of_getElem? hsent
    exact hsimulated n o m _ hsent hcalls hread (hroutes o ho m hcalls hread) hn

/-- A session that calls a function which only reads in all ways that do not insist on submitting:
each has it simulated. -/
theorem reads_submitted_only_by_insisting_never :
    let peek : Method := ⟨"peek", [], [], .read⟩
    let signer : Signer := ⟨5, fun _ => .error (.rpc "no signature")⟩
    let contract : Contract := ⟨7, ⟨none, [peek], [], []⟩, { policy := .uniform .unset, signer }⟩
    let steps : List Step := [.prepare (.dispatch "peek" []), .prepare (.call "peek" []),
      .send 1, .send 0]
    let final := (({ contract, replies := [] } : Session).runSteps steps).1
    let ledger := steps.foldl Ledger.step { contract }
    (∀ o ∈ ledger.sent, ∀ m, o.Calls m → m.mutability = .read → o.action.insists = false) ∧
      (∃ o request, ledger.sent[1]? = some o ∧ o.Calls peek ∧ o.action.insists = false ∧
        final.requests[1]? = some request ∧ request.Simulates) ∧
      ∀ (n : Nat) (o : Origin) (m : Method) (submission : Submission) (fees : Fees)
        (signer : Signer), ledger.sent[n]? = some o → o.Calls m →
        final.requests[n]? = some (.submit submission fees signer) → m.mutability ≠ .read := by
  intro peek signer contract steps final ledger
  obtain ⟨hsimulated, hnone⟩ := reads_submitted_only_by_insisting contract [] steps
  have hroutes : ∀ o ∈ ledger.sent, ∀ m, o.Calls m → m.mutability = .read →
      o.action.insists = false := by
    intro o ho m _ _
    have hsent : ledger.sent = [⟨contract, .call "peek" []⟩, ⟨contract, .dispatch "peek" []⟩] := rfl
    rw [hsent] at ho
    rcases List.mem_pair.mp ho with rfl | rfl
    · rfl
    · rfl
  have hcalls : Origin.Calls ⟨contract, .dispatch "peek" []⟩ peek := ⟨"peek", rfl, rfl⟩
  exact ⟨hroutes, ⟨_, _, rfl, hcalls, rfl, rfl, hsimulated 1 _ peek _ rfl hcalls rfl rfl rfl⟩,
    hnone.mpr hroutes⟩

/-- Sending a function that only reads by the call that submits has it submitted. -/
theorem send_submits_view :
    let peek : Method := ⟨"peek", [], [], .read⟩
    let signer : Signer := ⟨5, fun _ => .error (.rpc "no signature")⟩
    let contract : Contract := ⟨7, ⟨none, [peek], [], []⟩, { policy := .uniform .unset, signer }⟩
    let steps : List Step := [.prepare (.send "peek" []), .send 0]
    let final := (({ contract, replies := [] } : Session).runSteps steps).1
    contract.interface.method "peek" = .ok peek ∧ peek.mutability = .read ∧
      ∃ data, final.requests = [.submit ⟨some 7, data, 0⟩ .unset signer] := by
  intro peek signer contract steps final
  exact ⟨rfl, rfl, _, rfl⟩

end Session

end ContractToolkit
