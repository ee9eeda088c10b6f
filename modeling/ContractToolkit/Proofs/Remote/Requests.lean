import ContractToolkit.Proofs.Outcome
import ContractToolkit.Remote.Session

/-!
# What prepared calls ask

A prepared call asks one thing when it is sent, which is fixed when it is
prepared: the same each time, whatever the answer is. A call that submits asks
for what is intended by the action that prepares it: a target, its arguments and
the native value, with the client that the call goes through. Every other call
only reads.
-/

namespace ContractToolkit

open Abi Interface Remote Outcome Session

variable {α β : Type} {args : List Value} {value : Word}

namespace Remote

/-- An operation that asks one thing, whatever the answer is, and uses up one reply. -/
def Asks (request : Request) (p : Remote α) : Prop :=
  ∀ replies, (p.run replies).requests = [request] ∧ (p.run replies).replies = replies.tail

/-- What an operation asks first. -/
def first? : Remote α → Option Request
  | done _ => none
  | call request block _ => some (.call request block)
  | submit submission fees signer _ => some (.submit submission fees signer)
  | logs filter _ => some (.logs filter)

namespace Asks

variable {request : Request} {p : Remote α}

/-- A call that is done with the answer. -/
theorem call (r : CallRequest) (block : Block) (f : Except TransportFault Bytes → α) :
    Asks (.call r block) (.call r block fun answer => .done (f answer)) :=
  fun _ => ⟨rfl, rfl⟩

/-- A submission that is done with the answer. -/
theorem submit (s : Submission) (fees : Fees) (signer : Signer)
    (f : Except TransportFault Receipt → α) :
    Asks (.submit s fees signer) (.submit s fees signer fun answer => .done (f answer)) :=
  fun _ => ⟨rfl, rfl⟩

/-- A search for logs that is done with the answer. -/
theorem logs (filter : LogFilter) (f : Except TransportFault (List Log) → α) :
    Asks (.logs filter) (.logs filter fun answer => .done (f answer)) :=
  fun _ => ⟨rfl, rfl⟩

/-- Working on the result changes nothing about what is asked. -/
theorem map (h : Asks request p) (f : α → β) : Asks request (p.map f) := by
  intro replies
  rw [run_map]
  exact h replies

/-- The one thing that an operation asks is what it asks first. -/
theorem first?_eq (h : Asks request p) : p.first? = some request := by
  have hrequests := (h []).1
  cases p with
  | done result => cases hrequests
  | call r block next => exact congrArg some (List.cons.inj hrequests).1
  | submit s fees signer next => exact congrArg some (List.cons.inj hrequests).1
  | logs filter next => exact congrArg some (List.cons.inj hrequests).1

end Asks

/-- A request that changes nothing on the chain. -/
def Request.Reads : Request → Prop
  | .submit _ _ _ => False
  | _ => True

/-- Whatever call is prepared asks one thing, of a kind. -/
def Prepares (P : Request → Prop) (prepared : Outcome (Call α)) : Prop :=
  ∀ c, prepared = .ok c → ∃ request, P request ∧ Asks request c.operation

namespace Prepares

variable {P Q : Request → Prop}

/-- A prepared call asks one thing. -/
theorem ok {c : Call α} {request : Request} (hasks : Asks request c.operation)
    (hrequest : P request) : Prepares P (.ok c) := by
  intro d hd
  obtain rfl := Except.ok.inj hd
  exact ⟨request, hrequest, hasks⟩

/-- What is asked by a call that is prepared after a step. -/
theorem bind {x : Outcome β} {f : β → Outcome (Call α)} (h : ∀ b, x = .ok b → Prepares P (f b)) :
    Prepares P (x >>= f) := by
  intro c hc
  obtain ⟨b, hx, hb⟩ := bind_eq_ok.mp hc
  exact h b hx c hb

/-- Working on the answer of a prepared call changes nothing about what is asked. -/
theorem map {x : Outcome (Call α)} (h : Prepares P x) (f : α → Outcome β) :
    Prepares P (do return (← x).map f) := by
  refine .bind fun c hc => ?_
  obtain ⟨request, hrequest, hasks⟩ := h c hc
  exact .ok (hasks.map _) hrequest

/-- What is asked is of every kind that holds it. -/
theorem mono {x : Outcome (Call α)} (h : Prepares P x) (hPQ : ∀ r, P r → Q r) :
    Prepares Q x := by
  intro c hc
  obtain ⟨request, hrequest, hasks⟩ := h c hc
  exact ⟨request, hPQ request hrequest, hasks⟩

end Prepares

end Remote

/-! ### Calls that only read -/

namespace Client

/-- A simulated call only reads. -/
theorem readAt_reads (c : Client) (m : Method) (recipient : Address) (block : Block) :
    Prepares Request.Reads (c.readAt m recipient args block) :=
  .bind fun _ _ => .ok (.call _ block _) trivial

/-- A function that only reads is simulated. -/
theorem dispatch_reads (c : Client) {m : Method} (hread : m.mutability = .read)
    (recipient : Address) : Prepares Request.Reads (c.dispatch m recipient args) := by
  rw [dispatch, if_pos hread]
  exact (c.readAt_reads m recipient c.block).map _

end Client

/-- A search for past events only reads. -/
theorem Contract.events_reads (c : Contract) (event : String) (indexed : List (Option Value))
    (fromBlock toBlock : Option Block) :
    Prepares Request.Reads (c.events event indexed fromBlock toBlock) :=
  .bind fun _ _ => .bind fun _ _ => .ok (.logs _ _) trivial

/-- What a token returns is only read. -/
theorem Token.reading_reads (t : Token) (function : String) (args : List Value)
    (extract : Value → Option α) : Prepares Request.Reads (t.reading function args extract) :=
  .map (.bind fun _ _ => Client.readAt_reads _ _ _ _) (single extract)

/-! ### Calls that submit -/

/-- What a transaction is directed at: a function at an address, or the creation of a contract. -/
structure Target where
  /-- The signature that fees are told by. -/
  label : String
  /-- The contract; absent for the creation of one. -/
  recipient : Option Address
  /-- What stands in front of the encoded arguments. -/
  front : Bytes
  /-- The parameters. -/
  inputs : List Param
  /-- Whether native value is taken. -/
  payable : Bool

/-- A function at an address, selected by the digest of its signature. -/
def Interface.Method.target (m : Method) (address : Address) : Target :=
  ⟨m.signature, some address, m.selector.bytes, m.inputs, m.mutability = .payable⟩

/-- The creation of a contract from code. -/
def Interface.Constructor.target (k : Constructor) (bytecode : Bytes) : Target :=
  ⟨Client.creationLabel, none, bytecode, k.inputs, k.payable⟩

/-- What is intended with a transaction. -/
structure Intent where
  /-- What the call goes through. -/
  client : Client
  /-- What it is directed at. -/
  target : Target
  /-- The arguments. -/
  args : List Value
  /-- The native value. -/
  value : Word

namespace Intent

/-- A submission, with its fees and who signs for it, that is the intended one. -/
structure MetBy (x : Intent) (submission : Submission) (fees : Fees) (signer : Signer) : Prop where
  /-- It goes to the target. -/
  recipient : submission.recipient = x.target.recipient
  /-- The encoded arguments stand behind what selects the target. -/
  data : ∃ encoded, encodeParams (tys x.target.inputs) x.args = .ok encoded ∧
    submission.data = x.target.front ++ encoded
  /-- It carries the given value. -/
  value : submission.value = x.value
  /-- It carries value only to a target that takes it. -/
  payable : submission.value ≠ 0 → x.target.payable = true
  /-- The one who signs for the client signs it. -/
  signer : x.client.signer = some signer
  /-- The fees are those that the client decides on for the target. -/
  fees : fees = x.client.policy x.target.label

/-- A request for the intended submission. -/
def Wants (x : Intent) (request : Request) : Prop :=
  ∃ submission fees signer, request = .submit submission fees signer ∧
    x.MetBy submission fees signer

/-- An intent that no submission meets: nobody signs, the target takes no value, or the arguments
are none for it. -/
def Hindered (x : Intent) : Prop :=
  x.client.signer = none ∨ (x.value ≠ 0 ∧ x.target.payable = false) ∨
    ∃ error, encodeParams (tys x.target.inputs) x.args = .error error

/-- A call that submits what is intended. -/
def Submits (x : Intent) (call : Call Receipt) : Prop :=
  ∃ submission fees signer, x.MetBy submission fees signer ∧
    call = x.client.submitting x.target.label submission signer

/-- The intended submission is told by the encoded arguments. -/
theorem MetBy.exists_encoded {x : Intent} {submission : Submission} {fees : Fees}
    {signer : Signer} (h : x.MetBy submission fees signer) :
    ∃ encoded, encodeParams (tys x.target.inputs) x.args = .ok encoded ∧
      submission = ⟨x.target.recipient, x.target.front ++ encoded, x.value⟩ := by
  obtain ⟨encoded, hencoded, hdata⟩ := h.data
  obtain ⟨recipient, data, value⟩ := submission
  obtain rfl := h.recipient
  obtain rfl := h.value
  obtain rfl := hdata
  exact ⟨encoded, hencoded, rfl⟩

/-- Where nothing hinders there is a submission that meets the intent, and nowhere else. -/
theorem exists_metBy {x : Intent} :
    (∃ submission fees signer, x.MetBy submission fees signer) ↔ ¬ x.Hindered := by
  constructor
  · rintro ⟨submission, fees, signer, hmet⟩
    rintro (hsigner | ⟨hvalue, hpayable⟩ | ⟨error, herror⟩)
    · rw [hmet.signer] at hsigner
      cases hsigner
    · have htaken := hmet.payable (hmet.value ▸ hvalue)
      rw [hpayable] at htaken
      cases htaken
    · obtain ⟨encoded, hencoded, -⟩ := hmet.data
      rw [herror] at hencoded
      cases hencoded
  · intro h
    obtain ⟨hsigner, h⟩ := not_or.mp h
    obtain ⟨hvalue, hencoded⟩ := not_or.mp h
    obtain ⟨signer, hsigner⟩ := Option.ne_none_iff_exists'.mp hsigner
    cases hencode : encodeParams (tys x.target.inputs) x.args with
    | error error => exact absurd ⟨error, hencode⟩ hencoded
    | ok encoded =>
      refine ⟨⟨x.target.recipient, x.target.front ++ encoded, x.value⟩, _, signer, rfl,
        ⟨encoded, hencode, rfl⟩, rfl, fun hcarries => ?_, hsigner, rfl⟩
      exact eq_true_of_ne_false fun hpayable => hvalue ⟨hcarries, hpayable⟩

/-- Calls are prepared as an intent has it: each asks for the intended submission, and there is one
unless something hinders or no code is given for a creation. -/
structure Rules (x : Intent) (prepared : Outcome (Call α)) : Prop where
  /-- A prepared call asks for the intended submission. -/
  asks : Prepares x.Wants prepared
  /-- A call is prepared for a submission that meets the intent. -/
  exists_call : ¬ x.Hindered → (x.target.recipient = none → x.target.front ≠ []) →
    ∃ call, prepared = .ok call

namespace Rules

variable {x : Intent}

/-- Calls that are prepared exactly when they submit what is intended. -/
theorem of_eq_ok {prepared : Outcome (Call Receipt)}
    (h : ∀ call, prepared = .ok call ↔ x.Submits call) : x.Rules prepared where
  asks := by
    intro call hcall
    obtain ⟨submission, fees, signer, hmet, rfl⟩ := (h call).mp hcall
    obtain rfl := hmet.fees
    exact ⟨_, ⟨submission, _, signer, rfl, hmet⟩, .submit submission _ signer _⟩
  exists_call := by
    intro hfree _
    obtain ⟨submission, fees, signer, hmet⟩ := exists_metBy.mpr hfree
    exact ⟨_, (h _).mpr ⟨submission, fees, signer, hmet, rfl⟩⟩

/-- Working on the answer keeps to the intent. -/
theorem map {prepared : Outcome (Call α)} (h : x.Rules prepared) (f : α → Outcome β) :
    x.Rules (do return (← prepared).map f) where
  asks := h.asks.map f
  exists_call := by
    intro hfree hcode
    obtain ⟨call, hcall⟩ := h.exists_call hfree hcode
    exact ⟨call.map f, bind_eq_ok.mpr ⟨call, hcall, rfl⟩⟩

end Rules

end Intent

/-- Encoding faults are told for a target; what is encoded stays. -/
theorem forTarget_eq_ok {target : String} {x : Outcome α} {a : α} :
    forTarget target x = .ok a ↔ x = .ok a := by
  unfold forTarget
  split
  · simp
  · rfl

namespace Client

variable {c : Client} {m : Method} {recipient : Address}

/-- A target has someone who signs exactly when the client has. -/
theorem requireSigner_eq_ok {target : String} {signer : Signer} :
    c.requireSigner target = .ok signer ↔ c.signer = some signer := by
  rw [requireSigner]
  cases c.signer with
  | none => simp
  | some other => simp

/-- A function is called by a transaction as it is intended. -/
theorem write_eq_ok {call : Call Receipt} :
    c.write m recipient args value = .ok call ↔
      Intent.Submits ⟨c, m.target recipient, args, value⟩ call := by
  rw [write]
  split
  · rename_i h
    rw [test_eq_ok]
    constructor
    · rintro ⟨htest, -⟩
      cases htest
    · rintro ⟨submission, fees, signer, hmet, -⟩
      exact absurd (of_decide_eq_true (hmet.payable (hmet.value ▸ h.1))) h.2
  · rename_i h
    simp only [Method.encodeCall, bind_eq_ok, pure_eq_ok, requireSigner_eq_ok, forTarget_eq_ok]
    constructor
    · rintro ⟨data, ⟨encoded, hencoded, rfl⟩, signer, hsigner, rfl⟩
      refine ⟨_, _, signer, ⟨rfl, ⟨encoded, hencoded, rfl⟩, rfl, fun hvalue => ?_, hsigner, rfl⟩,
        rfl⟩
      exact decide_eq_true (Decidable.of_not_not fun hpayable => h ⟨hvalue, hpayable⟩)
    · rintro ⟨submission, fees, signer, hmet, rfl⟩
      obtain ⟨encoded, hencoded, rfl⟩ := hmet.exists_encoded
      exact ⟨_, ⟨encoded, hencoded, rfl⟩, signer, hmet.signer, rfl⟩

/-- A contract is created exactly when there is someone who signs. -/
theorem create_eq_ok {data : Bytes} {call : Call Receipt} :
    c.create data value = .ok call ↔ ∃ signer, c.signer = some signer ∧
      c.submitting creationLabel ⟨none, data, value⟩ signer = call := by
  simp only [create, bind_eq_ok, pure_eq_ok, requireSigner_eq_ok]

end Client

/-- What is intended with the creation of a contract from data as it is. -/
def Intent.raw (c : Client) (data : Bytes) (value : Word) : Intent :=
  ⟨c, ⟨Client.creationLabel, none, data, [], true⟩, [], value⟩

/-- A contract is created from data as it is intended. -/
theorem Client.create_rules (c : Client) (data : Bytes) (value : Word) :
    (Intent.raw c data value).Rules (c.create data value) := by
  refine .of_eq_ok fun call => ?_
  rw [create_eq_ok]
  constructor
  · rintro ⟨signer, hsigner, rfl⟩
    exact ⟨_, _, signer, ⟨rfl, ⟨[], rfl, (List.append_nil data).symm⟩, rfl, fun _ => rfl, hsigner,
      rfl⟩, rfl⟩
  · rintro ⟨submission, fees, signer, hmet, rfl⟩
    obtain ⟨encoded, hencoded, rfl⟩ := hmet.exists_encoded
    obtain rfl : [] = encoded := Except.ok.inj hencoded
    exact ⟨signer, hmet.signer, congrArg (fun data => c.submitting creationLabel
      ⟨none, data, value⟩ signer) (List.append_nil data).symm⟩

namespace Deployment

variable {d : Deployment}

/-- What is intended with a deployment. -/
def intent (d : Deployment) (args : List Value) : Intent :=
  ⟨d.client, d.constructor.target d.bytecode, args, d.value⟩

/-- The data of a creation are the code and the encoded arguments, for code that there is and a
value that the constructor takes. -/
theorem creationData_eq_ok {data : Bytes} :
    d.creationData args = .ok data ↔ d.bytecode ≠ [] ∧
      (d.value ≠ 0 → d.constructor.payable = true) ∧
      ∃ encoded, encodeParams (tys d.constructor.inputs) args = .ok encoded ∧
        d.bytecode ++ encoded = data := by
  rw [creationData]
  split
  · rename_i hempty
    rw [test_eq_ok]
    constructor
    · rintro ⟨htest, -⟩
      cases htest
    · rintro ⟨hcode, -⟩
      exact absurd (List.isEmpty_iff.mp hempty) hcode
  · rename_i hcode
    rw [List.isEmpty_iff] at hcode
    split
    · rename_i h
      rw [test_eq_ok]
      constructor
      · rintro ⟨htest, -⟩
        cases htest
      · rintro ⟨-, hpayable, -⟩
        have hrefused := h.2
        rw [hpayable h.1] at hrefused
        cases hrefused
    · rename_i h
      have hpayable (hvalue : d.value ≠ 0) : d.constructor.payable = true := by
        cases hpayable : d.constructor.payable with
        | true => rfl
        | false => exact absurd ⟨hvalue, by rw [hpayable]; rfl⟩ h
      simp only [Constructor.encodeDeploy, bind_eq_ok, pure_eq_ok, forTarget_eq_ok]
      constructor
      · intro hencoded
        exact ⟨hcode, hpayable, hencoded⟩
      · rintro ⟨-, -, hencoded⟩
        exact hencoded

/-- Contracts are deployed as it is intended. -/
theorem deploy_rules (d : Deployment) (args : List Value) :
    (d.intent args).Rules (d.deploy args) where
  asks := by
    refine .bind fun data hdata => .map ?_ d.contractOf
    obtain ⟨-, hpayable, encoded, hencoded, rfl⟩ := creationData_eq_ok.mp hdata
    intro call hcall
    obtain ⟨signer, hsigner, rfl⟩ := Client.create_eq_ok.mp hcall
    exact ⟨_, ⟨_, _, signer, rfl, rfl, ⟨encoded, hencoded, rfl⟩, rfl, hpayable, hsigner, rfl⟩,
      .submit _ _ signer _⟩
  exists_call := by
    intro hfree hcode
    obtain ⟨submission, fees, signer, hmet⟩ := Intent.exists_metBy.mpr hfree
    obtain ⟨encoded, hencoded, -⟩ := hmet.data
    have hpayable : d.value ≠ 0 → d.constructor.payable = true :=
      fun hvalue => hmet.payable (hmet.value ▸ hvalue)
    have hdata := creationData_eq_ok.mpr ⟨hcode rfl, hpayable, encoded, hencoded, rfl⟩
    have hcreate : d.client.create (d.bytecode ++ encoded) d.value = .ok _ :=
      Client.create_eq_ok.mpr ⟨signer, hmet.signer, rfl⟩
    exact ⟨_, bind_eq_ok.mpr ⟨_, hdata, bind_eq_ok.mpr ⟨_, hcreate, rfl⟩⟩⟩

end Deployment

/-! ### Actions -/

namespace Contract

variable {c : Contract} {action : Action} {x : Intent} {key : String}

/-- What is intended with a transaction to the function that a key stands for. -/
def calling? (c : Contract) (key : String) (args : List Value) (value : Word) : Option Intent :=
  match c.interface.method key with
  | .ok m => some ⟨c.client, m.target c.address, args, value⟩
  | .error _ => none

/-- What is intended with an action, if it is to submit a transaction. -/
def intent? (c : Contract) : Action → Option Intent
  | .send function args => c.calling? function args 0
  | .sendWithValue function args value => c.calling? function args value
  | .dispatch function args =>
    match c.interface.method function with
    | .ok m => if m.mutability = .read then none else c.calling? function args 0
    | .error _ => none
  | .create data value => some (.raw c.client data value)
  | .deploy bytecode args value =>
    some (Deployment.intent ⟨c.client, c.interface, bytecode, value⟩ args)
  | .deployAlone policy signer bytecode args =>
    some (Deployment.intent ⟨{ policy, signer := some signer }, c.interface, bytecode, 0⟩ args)
  | .transfer recipient amount => c.calling? "transfer" [.address recipient, .uint256 amount] 0
  | .approve spender amount => c.calling? "approve" [.address spender, .uint256 amount] 0
  | .transferFrom source recipient amount =>
    c.calling? "transferFrom" [.address source, .address recipient, .uint256 amount] 0
  | _ => none

/-- A key stands for a function that calling it is directed at. -/
theorem exists_of_calling? (h : c.calling? key args value = some x) :
    ∃ m, c.method key = .ok m ∧ x = ⟨c.client, m.target c.address, args, value⟩ := by
  rw [calling?] at h
  split at h
  · rename_i m hm
    exact ⟨m, ofDescriptor_eq_ok.mpr hm, (Option.some.inj h).symm⟩
  · cases h

/-- A function is called by a transaction as it is intended. -/
theorem calling?_rules (h : c.calling? key args value = some x) :
    x.Rules (c.method key >>= fun m => c.client.write m c.address args value) := by
  obtain ⟨m, hm, rfl⟩ := exists_of_calling? h
  rw [hm]
  exact .of_eq_ok fun call => Client.write_eq_ok

/-- A key that stands for no function prepares nothing. -/
theorem calling?_reads (h : c.calling? key args value = none) :
    Prepares Request.Reads (c.method key >>= fun m => c.client.write m c.address args value) := by
  refine .bind fun m hm => ?_
  rw [calling?, ofDescriptor_eq_ok.mp hm] at h
  cases h

/-- A function that does more than read is called by a transaction without native value. -/
theorem dispatch_eq_write {m : Method} (hm : c.method key = .ok m) (hwrite : m.mutability ≠ .read) :
    c.dispatch key args = do
      return (← c.method key >>= fun m => c.client.write m c.address args 0).map
        fun receipt => .ok (.mined receipt) := by
  rw [dispatch, hm]
  exact if_neg hwrite

/-- An action that is to submit a transaction prepares calls as it is intended. -/
theorem prepare_rules (h : c.intent? action = some x) : x.Rules (c.prepare action) := by
  cases action with
  | send key args => exact (calling?_rules h).map _
  | sendWithValue key args value => exact (calling?_rules h).map _
  | dispatch key args =>
    rw [intent?] at h
    split at h
    · rename_i m hm
      split at h
      · cases h
      · rename_i hwrite
        have hrules := (calling?_rules h).map fun receipt => .ok (Client.Effect.mined receipt)
        rw [← dispatch_eq_write (ofDescriptor_eq_ok.mpr hm) hwrite] at hrules
        exact hrules.map _
    · cases h
  | create data value =>
    obtain rfl := Option.some.inj h
    exact (c.client.create_rules data value).map _
  | deploy bytecode args value =>
    obtain rfl := Option.some.inj h
    exact (Deployment.deploy_rules _ args).map _
  | deployAlone policy signer bytecode args =>
    obtain rfl := Option.some.inj h
    exact (Deployment.deploy_rules _ args).map _
  | transfer recipient amount => exact (calling?_rules h).map _
  | approve spender amount => exact (calling?_rules h).map _
  | transferFrom source recipient amount => exact (calling?_rules h).map _
  | _ => cases h

/-- Any other action prepares calls that only read. -/
theorem prepare_reads (h : c.intent? action = none) :
    Prepares Request.Reads (c.prepare action) := by
  have hsimulated (key : String) (args : List Value) (block : Block) :
      Prepares Request.Reads (c.method key >>= fun m => c.client.readAt m c.address args block) :=
    .bind fun m _ => c.client.readAt_reads m c.address block
  -- An action that could submit has no intent only where its key stands for no function, and then
  -- nothing is prepared, or where the function only reads.
  cases action with
  | call key args => exact (hsimulated key args c.client.block).map _
  | callAt key args block => exact (hsimulated key args block).map _
  | send key args => exact (calling?_reads h).map _
  | sendWithValue key args value => exact (calling?_reads h).map _
  | dispatch key args =>
    refine Prepares.map (.bind fun m hm => ?_) _
    rw [intent?, ofDescriptor_eq_ok.mp hm] at h
    dsimp only at h
    split at h
    · rename_i hread
      exact c.client.dispatch_reads hread c.address
    · rw [calling?, ofDescriptor_eq_ok.mp hm] at h
      cases h
  | events event indexed fromBlock toBlock => exact (c.events_reads _ _ _ _).map _
  | create data value => cases h
  | deploy bytecode args value => cases h
  | deployAlone policy signer bytecode args => cases h
  | tokenName => exact (Token.reading_reads _ _ _ _).map _
  | tokenSymbol => exact (Token.reading_reads _ _ _ _).map _
  | tokenDecimals => exact (Token.reading_reads _ _ _ _).map _
  | totalSupply => exact (Token.reading_reads _ _ _ _).map _
  | balanceOf account => exact (Token.reading_reads _ _ _ _).map _
  | allowance owner spender => exact (Token.reading_reads _ _ _ _).map _
  | transfer recipient amount => exact (calling?_reads h).map _
  | approve spender amount => exact (calling?_reads h).map _
  | transferFrom source recipient amount => exact (calling?_reads h).map _
  | transfers source recipient fromBlock toBlock =>
    exact ((c.events_reads _ _ _ _).map _).map _

/-- Whatever an action prepares asks one thing, and submits only what is intended. -/
theorem prepare_asks (c : Contract) (action : Action) :
    Prepares (fun request => request.Reads ∨ ∃ x, c.intent? action = some x ∧ x.Wants request)
      (c.prepare action) := by
  cases h : c.intent? action with
  | none => exact (prepare_reads h).mono fun _ hreads => .inl hreads
  | some x => exact (prepare_rules h).asks.mono fun _ hwants => .inr ⟨x, rfl, hwants⟩

end Contract

end ContractToolkit
