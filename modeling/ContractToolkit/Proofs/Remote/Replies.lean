import ContractToolkit.Proofs.Remote.Requests
import Mathlib.Data.List.Forall2

/-!
# What a reply leads to

The outcome of a call is decided by the reply to the one thing that it asks, and
by the contract that the call was prepared with. A failure of the node is told as
it is. A revert is told by the message of the node where it has no data, and by
the reason that the interface of the contract gives for the data otherwise.
Return data are decoded by the function, a receipt is handed on unless it tells of
a revert, and logs are decoded all together or not at all.
-/

namespace ContractToolkit

open Abi Interface Remote Outcome

variable {α β γ : Type}

/-! ### What an answer means -/

/-- What return data mean for a function at an address: its return values, except that no data
where there should be some is an error of its own. -/
structure Interface.Method.Returns (m : Method) (address : Address) (data : Bytes)
    (outcome : Outcome (List Value)) : Prop where
  /-- There should be data and are none. -/
  missing : data = [] → m.outputs ≠ [] →
    outcome = .error (.decode (.noData m.signature address))
  /-- There are data, or none are needed. -/
  decoded : (data = [] → m.outputs = []) → outcome = m.decodeOutput data

/-- What a receipt means: it is handed on as it is, unless it tells of a revert. -/
structure Remote.Receipt.Settles (receipt : Receipt) (outcome : Outcome Receipt) : Prop where
  /-- The receipt tells of a revert. -/
  reverted : receipt.status = some 0 →
    outcome = .error (.reverted ("transaction " ++ Word.hex receipt.hash ++ " reverted"))
  /-- The receipt tells of none, or nothing about it. -/
  kept : receipt.status ≠ some 0 → outcome = .ok receipt

/-- What logs mean for an event: all of them decoded in their order, or the error of the first one
that is not decoded. -/
inductive Interface.Event.Finds (e : Event) : List Log → Outcome (List DecodedEvent) → Prop
  | all {logs : List Log} {events : List DecodedEvent}
      (each : logs.Forall₂ (fun log event => e.decode log = .ok event) events) :
      Finds e logs (.ok events)
  | failing {before after : List Log} {log : Log} {error : Error}
      (earlier : ∀ other ∈ before, ∃ event, e.decode other = .ok event)
      (first : e.decode log = .error error) :
      Finds e (before ++ log :: after) (.error error)

/-- What an answer means where its result is worked on further. -/
def Continued (Means : β → Outcome α → Prop) (f : α → Outcome γ) (answer : β)
    (outcome : Outcome γ) : Prop :=
  ∃ inner, Means answer inner ∧ outcome = inner.bind f

/-- Reading return data gives what they mean. -/
theorem Client.readReturned_returns (m : Method) (address : Address) (data : Bytes) :
    m.Returns address data (Client.readReturned m address data) where
  missing := by
    intro hdata houtputs
    have hsome : (!m.outputs.isEmpty) = true := by
      simpa [List.isEmpty_iff] using houtputs
    rw [Client.readReturned, if_pos ⟨List.isEmpty_iff.mpr hdata, hsome⟩]
  decoded := by
    intro hnone
    refine if_neg ?_
    rintro ⟨hdata, houtputs⟩
    have hempty := hnone (List.isEmpty_iff.mp hdata)
    rw [hempty] at houtputs
    cases houtputs

/-- Checking a receipt gives what it means. -/
theorem Client.checkReceipt_settles (receipt : Receipt) :
    receipt.Settles (Client.checkReceipt receipt) where
  reverted := fun h => if_pos h
  kept := fun h => if_neg h

/-- Decoding logs in a row gives what they mean. -/
theorem Interface.Event.mapM_finds (e : Event) (logs : List Log) :
    e.Finds logs (logs.mapM e.decode) := by
  cases h : logs.mapM e.decode with
  | ok events => exact .all (mapM_eq_ok_iff_forall₂.mp h)
  | error error =>
    obtain ⟨before, log, after, rfl, hbefore, hlog⟩ := mapM_eq_error.mp h
    exact .failing hbefore hlog

/-! ### How calls are resolved -/

namespace Remote

/-- An operation that the next reply resolves: `read` finds the answer in it, or the failure, and
`reason` is what revert data are told by. -/
structure Resolves (reason : Bytes → String) (read : Reply → Except TransportFault β)
    (Means : β → Outcome α → Prop) (p : Remote (Outcome α)) : Prop where
  /-- A failure of the node is told as it is. -/
  failed : ∀ replies message, nextAnswer read replies = .error (.rpc message) →
    (p.run replies).result = .error (.transport message)
  /-- A revert without data is told by the message of the node, if there is one. -/
  silent : ∀ replies message, nextAnswer read replies = .error (.revert [] message) →
    (p.run replies).result =
      .error (.reverted (message.getD "execution reverted without a reason"))
  /-- A revert with data is told by the reason for them. -/
  explained : ∀ replies data message, data ≠ [] →
    nextAnswer read replies = .error (.revert data message) →
      (p.run replies).result = .error (.reverted (reason data))
  /-- An answer leads to what it means. -/
  answered : ∀ replies answer, nextAnswer read replies = .ok answer →
    Means answer (p.run replies).result

namespace Resolves

variable {read : Reply → Except TransportFault β} {Means : β → Outcome α → Prop}
  {p : Remote (Outcome α)}

/-- An operation that explains failures with errors that are known, and then works on the answer. -/
theorem of_run {errors : List CustomError} {finish : β → Outcome α}
    (hfinish : ∀ answer, Means answer (finish answer))
    (hrun : ∀ replies, (p.run replies).result =
      ((nextAnswer read replies).mapError (Client.explain errors)).bind finish) :
    Resolves (reasonOf errors) read Means p where
  failed := by
    intro replies message h
    rw [hrun, h]
    rfl
  silent := by
    intro replies message h
    rw [hrun, h]
    cases message with
    | none => rfl
    | some message => rfl
  explained := by
    intro replies data message hdata h
    rw [hrun, h]
    cases data with
    | nil => exact absurd rfl hdata
    | cons octet rest => rfl
  answered := by
    intro replies answer h
    rw [hrun, h]
    exact hfinish answer

/-- Working on the result leaves how the operation is resolved. -/
theorem continued {reason : Bytes → String} (h : Resolves reason read Means p)
    (f : α → Outcome γ) :
    Resolves reason read (Continued Means f) (p.map fun outcome => outcome.bind f) where
  failed := by
    intro replies message hreply
    rw [run_map, h.failed replies message hreply]
    rfl
  silent := by
    intro replies message hreply
    rw [run_map, h.silent replies message hreply]
    rfl
  explained := by
    intro replies data message hdata hreply
    rw [run_map, h.explained replies data message hdata hreply]
    rfl
  answered := by
    intro replies answer hreply
    refine ⟨_, h.answered replies answer hreply, ?_⟩
    rw [run_map]

end Resolves

end Remote

namespace Client

variable {c : Client} {m : Method} {address : Address} {args : List Value} {value : Word}

/-- A simulated call is resolved by return data. -/
theorem readAt_resolves {block : Block} {call : Call (List Value)}
    (hcall : c.readAt m address args block = .ok call) :
    Resolves (reasonOf c.errors) Reply.returned? (m.Returns address) call.operation := by
  obtain ⟨data, -, hdata⟩ := bind_eq_ok.mp hcall
  obtain rfl := Except.ok.inj hdata
  exact .of_run (readReturned_returns m address) fun _ => rfl

/-- A submission is resolved by a receipt. -/
theorem submitting_resolves (label : String) (submission : Submission) (signer : Signer) :
    Resolves (reasonOf c.errors) Reply.mined? Receipt.Settles
      (c.submitting label submission signer).operation :=
  .of_run checkReceipt_settles fun _ => rfl

/-- A submitted call is resolved by a receipt. -/
theorem write_resolves {call : Call Receipt}
    (hcall : c.write m address args value = .ok call) :
    Resolves (reasonOf c.errors) Reply.mined? Receipt.Settles call.operation := by
  obtain ⟨submission, fees, signer, -, rfl⟩ := write_eq_ok.mp hcall
  exact submitting_resolves _ _ _

/-- A call that is simulated or submitted as its function demands is resolved accordingly. -/
theorem dispatch_resolves {call : Call Effect}
    (hcall : c.dispatch m address args = .ok call) :
    (m.mutability = .read → Resolves (reasonOf c.errors) Reply.returned?
      (Continued (m.Returns address) fun values => .ok (.returned values)) call.operation) ∧
    (m.mutability ≠ .read → Resolves (reasonOf c.errors) Reply.mined?
      (Continued Receipt.Settles fun receipt => .ok (.mined receipt)) call.operation) := by
  rw [dispatch] at hcall
  split at hcall
  · rename_i hread
    obtain ⟨inner, hinner, hwrapped⟩ := bind_eq_ok.mp hcall
    obtain rfl := Except.ok.inj hwrapped
    exact ⟨fun _ => (readAt_resolves hinner).continued _, fun hwrite => absurd hread hwrite⟩
  · rename_i hwrite
    obtain ⟨inner, hinner, hwrapped⟩ := bind_eq_ok.mp hcall
    obtain rfl := Except.ok.inj hwrapped
    exact ⟨fun hread => absurd hread hwrite, fun _ => (write_resolves hinner).continued _⟩

end Client

namespace Contract

/-- A contract as contracts come to be: an interface at an address with a client, whatever errors
that client knew, and after that any change of who signs or of the account that simulated calls seem
to come from. -/
inductive Bound : Contract → Prop
  | bind (address : Address) (interface : Interface) (client : Client) :
      Bound (.bind address interface client)
  | withSigner {c : Contract} (h : Bound c) (signer : Signer) : Bound (c.withSigner signer)
  | withCaller {c : Contract} (h : Bound c) (caller : Address) : Bound (c.withCaller caller)

/-- The client of a contract knows the errors of its interface, and no others. -/
theorem Bound.errors_eq {c : Contract} (h : c.Bound) : c.client.errors = c.interface.errors := by
  induction h with
  | bind address interface client => rfl
  | withSigner _ signer ih => exact ih
  | withCaller _ caller ih => exact ih

/-- The reasons that a contract gives are those of its client. -/
theorem Bound.revertReason_eq {c : Contract} (h : c.Bound) :
    c.revertReason = reasonOf c.client.errors := by
  rw [h.errors_eq]
  rfl

/-- A search for past events is resolved by logs. -/
theorem events_resolves {c : Contract} {key : String} {indexed : List (Option Value)}
    {fromBlock toBlock : Option Block} {call : Call (List DecodedEvent)}
    (hcall : c.events key indexed fromBlock toBlock = .ok call) :
    ∃ e, c.interface.event key = .ok e ∧
      Resolves c.revertReason Reply.found? e.Finds call.operation := by
  obtain ⟨e, he, hfilter⟩ := bind_eq_ok.mp hcall
  obtain ⟨filter, -, hlogs⟩ := bind_eq_ok.mp hfilter
  obtain rfl := Except.ok.inj hlogs
  exact ⟨e, ofDescriptor_eq_ok.mp he, .of_run e.mapM_finds fun _ => rfl⟩

/-- Every call of a contract is resolved by the reply in the same way, whatever errors the client
knew before the contract was bound and whoever signs or seems to call. Failures are told alike for
all of them. Return data are decoded by the function that the key stands for, a receipt is handed on
unless it tells of a revert, and logs are decoded in their order or lead to the error of the first
one that is not decoded. -/
theorem replies_resolve {c : Contract} (h : c.Bound) :
    (∀ key args call, c.call key args = .ok call →
        ∃ m, c.interface.method key = .ok m ∧
          Resolves c.revertReason Reply.returned? (m.Returns c.address) call.operation) ∧
      (∀ key args block call, c.callAt key args block = .ok call →
        ∃ m, c.interface.method key = .ok m ∧
          Resolves c.revertReason Reply.returned? (m.Returns c.address) call.operation) ∧
      (∀ key args call, c.send key args = .ok call →
        Resolves c.revertReason Reply.mined? Receipt.Settles call.operation) ∧
      (∀ key args value call, c.sendWithValue key args value = .ok call →
        Resolves c.revertReason Reply.mined? Receipt.Settles call.operation) ∧
      (∀ key args call, c.dispatch key args = .ok call →
        ∃ m, c.interface.method key = .ok m ∧
          (m.mutability = .read → Resolves c.revertReason Reply.returned?
            (Continued (m.Returns c.address) fun values => .ok (.returned values))
            call.operation) ∧
          (m.mutability ≠ .read → Resolves c.revertReason Reply.mined?
            (Continued Receipt.Settles fun receipt => .ok (.mined receipt)) call.operation)) ∧
      ∀ key indexed fromBlock toBlock call, c.events key indexed fromBlock toBlock = .ok call →
        ∃ e, c.interface.event key = .ok e ∧
          Resolves c.revertReason Reply.found? e.Finds call.operation := by
  refine ⟨?call, ?callAt, ?send, ?sendWithValue, ?dispatch, ?events⟩
  case call =>
    intro key args call hcall
    obtain ⟨m, hm, hread⟩ := bind_eq_ok.mp hcall
    rw [h.revertReason_eq]
    exact ⟨m, ofDescriptor_eq_ok.mp hm, Client.readAt_resolves hread⟩
  case callAt =>
    intro key args block call hcall
    obtain ⟨m, hm, hread⟩ := bind_eq_ok.mp hcall
    rw [h.revertReason_eq]
    exact ⟨m, ofDescriptor_eq_ok.mp hm, Client.readAt_resolves hread⟩
  case send =>
    intro key args call hcall
    obtain ⟨m, -, hwrite⟩ := bind_eq_ok.mp hcall
    rw [h.revertReason_eq]
    exact Client.write_resolves hwrite
  case sendWithValue =>
    intro key args value call hcall
    obtain ⟨m, -, hwrite⟩ := bind_eq_ok.mp hcall
    rw [h.revertReason_eq]
    exact Client.write_resolves hwrite
  case dispatch =>
    intro key args call hcall
    obtain ⟨m, hm, hdispatch⟩ := bind_eq_ok.mp hcall
    rw [h.revertReason_eq]
    exact ⟨m, ofDescriptor_eq_ok.mp hm, Client.dispatch_resolves hdispatch⟩
  case events =>
    intro key indexed fromBlock toBlock call hcall
    exact events_resolves hcall

/-- A contract that was bound with a client that knew another error: return data that are missing, a
receipt without a status, a revert with data, one with a message only, and a log that is none of the
event behind one that is. -/
theorem replies_resolve_rebound :
    let get : Method := ⟨"get", [], [⟨"", .uint 8⟩], .read⟩
    let pay : Method := ⟨"pay", [], [], .payable⟩
    let paid : Event := ⟨"Paid", [], true⟩
    let interface : Interface := ⟨none, [get, pay], [paid], [⟨"Denied", []⟩]⟩
    let former : Client := { policy := .uniform .unset, errors := [⟨"Closed", []⟩] }
    let signer : Signer := ⟨5, fun _ => .error (.rpc "no signature")⟩
    let c := ((Contract.bind 7 interface former).withSigner signer).withCaller 9
    let silent : Receipt := ⟨3, none, none, none, []⟩
    let good : Log := { address := 7, topics := [], data := [] }
    let bad : Log := { address := 7, topics := [1], data := [] }
    c.Bound ∧
      (∃ call, c.call "get" [] = .ok call ∧
        (call.operation.run [.returned []]).result = .error (.decode (.noData get.signature 7)) ∧
        (call.operation.run [.failure (.revert [1, 2, 3, 4] none)]).result =
          .error (.reverted (c.revertReason [1, 2, 3, 4]))) ∧
      (∃ call, c.sendWithValue "pay" [] 1 = .ok call ∧
        (call.operation.run [.mined silent]).result = .ok silent ∧
        (call.operation.run [.failure (.revert [] (some "paused"))]).result =
          .error (.reverted "paused")) ∧
      ∃ call, c.events "Paid" [] none none = .ok call ∧
        paid.Finds [good, bad] (call.operation.run [.found [good, bad]]).result := by
  intro get pay paid interface former signer c silent good bad
  have hbound : c.Bound := ((Bound.bind 7 interface former).withSigner signer).withCaller 9
  obtain ⟨hcall, -, -, hsend, -, hevents⟩ := replies_resolve hbound
  refine ⟨hbound, ?called, ?sent, ?sought⟩
  case called =>
    refine ⟨_, rfl, ?_⟩
    obtain ⟨m, hm, hresolves⟩ := hcall "get" [] _ rfl
    obtain rfl : get = m := Except.ok.inj hm
    exact ⟨(hresolves.answered _ [] rfl).missing rfl (List.cons_ne_nil _ _),
      hresolves.explained _ _ none (List.cons_ne_nil _ _) rfl⟩
  case sent =>
    refine ⟨_, rfl, ?_⟩
    have hresolves := hsend "pay" [] 1 _ rfl
    exact ⟨(hresolves.answered _ silent rfl).kept (fun h => by cases h),
      hresolves.silent _ (some "paused") rfl⟩
  case sought =>
    refine ⟨_, rfl, ?_⟩
    obtain ⟨e, he, hresolves⟩ := hevents "Paid" [] none none _ rfl
    obtain rfl : paid = e := Except.ok.inj he
    exact hresolves.answered _ [good, bad] rfl

end Contract

end ContractToolkit
