import ContractToolkit.Token.Basic

/-!
# Sessions

A session works with one contract at a time. Calls are prepared and kept; a kept
call can be copied, its answer can be worked on further, and it can be sent as
often as wanted. Only sending asks the node. What was asked is recorded, and the
replies come from a script.
-/

namespace ContractToolkit

open Abi Interface Remote

namespace Session

/-- A call that can be prepared. -/
inductive Action where
  /-- A simulated call. -/
  | call (function : String) (args : List Value)
  /-- A simulated call on the state of a block. -/
  | callAt (function : String) (args : List Value) (block : Block)
  /-- A submitted call. -/
  | send (function : String) (args : List Value)
  /-- A submitted call with native value. -/
  | sendWithValue (function : String) (args : List Value) (value : Word)
  /-- A call that is simulated or submitted as its function demands. -/
  | dispatch (function : String) (args : List Value)
  /-- A search for logs of an event. -/
  | events (event : String) (indexed : List (Option Value)) (fromBlock toBlock : Option Block)
  /-- A creation from data as it is. -/
  | create (data : Bytes) (value : Word)
  /-- A creation from code, through the client of the contract. -/
  | deploy (bytecode : Bytes) (args : List Value) (value : Word)
  /-- A creation from code, through a client of its own. -/
  | deployAlone (policy : FeeRule) (signer : Signer) (bytecode : Bytes) (args : List Value)
  /-- The name of a token. -/
  | tokenName
  /-- The short name of a token. -/
  | tokenSymbol
  /-- The decimals of a token. -/
  | tokenDecimals
  /-- The amount of all tokens. -/
  | totalSupply
  /-- The amount that an account holds. -/
  | balanceOf (account : Address)
  /-- The amount that an account may spend for another. -/
  | allowance (owner spender : Address)
  /-- Moving an amount of tokens. -/
  | transfer (recipient : Address) (amount : Word)
  /-- Allowing an account to spend an amount of tokens. -/
  | approve (spender : Address) (amount : Word)
  /-- Moving an amount of tokens between accounts. -/
  | transferFrom (source recipient : Address) (amount : Word)
  /-- A search for transfers. -/
  | transfers (source recipient : Option Address) (fromBlock toBlock : Option Block)

/-- The answer of a call. -/
inductive Answer where
  /-- Return values. -/
  | values (values : List Value)
  /-- A receipt. -/
  | receipt (receipt : Receipt)
  /-- Return values or a receipt, as the function demands. -/
  | effect (effect : Client.Effect)
  /-- Events. -/
  | events (events : List DecodedEvent)
  /-- A new contract. -/
  | contract (contract : Contract)
  /-- A text. -/
  | text (text : String)
  /-- A small number. -/
  | octet (n : UInt8)
  /-- An amount. -/
  | amount (amount : Word)
  /-- Transfers. -/
  | transfers (transfers : List Token.Transfer)

/-- A call with its answer among the others. -/
def answering {α : Type} (wrap : α → Answer) (prepared : Outcome (Call α)) :
    Outcome (Call Answer) := do
  return (← prepared).map fun a => .ok (wrap a)

end Session

open Session in
/-- The call that an action prepares. -/
def Contract.prepare (c : Contract) : Action → Outcome (Call Answer)
  | .call function args => answering .values (c.call function args)
  | .callAt function args block => answering .values (c.callAt function args block)
  | .send function args => answering .receipt (c.send function args)
  | .sendWithValue function args value => answering .receipt (c.sendWithValue function args value)
  | .dispatch function args => answering .effect (c.dispatch function args)
  | .events event indexed fromBlock toBlock =>
    answering .events (c.events event indexed fromBlock toBlock)
  | .create data value => answering .receipt (c.client.create data value)
  | .deploy bytecode args value =>
    answering .contract (Deployment.deploy ⟨c.client, c.interface, bytecode, value⟩ args)
  | .deployAlone policy signer bytecode args =>
    answering .contract (Contract.deploy policy signer c.interface bytecode args)
  | .tokenName => answering .text (Token.name ⟨c⟩)
  | .tokenSymbol => answering .text (Token.symbol ⟨c⟩)
  | .tokenDecimals => answering .octet (Token.decimals ⟨c⟩)
  | .totalSupply => answering .amount (Token.totalSupply ⟨c⟩)
  | .balanceOf account => answering .amount (Token.balanceOf ⟨c⟩ account)
  | .allowance owner spender => answering .amount (Token.allowance ⟨c⟩ owner spender)
  | .transfer recipient amount => answering .receipt (Token.transfer ⟨c⟩ recipient amount)
  | .approve spender amount => answering .receipt (Token.approve ⟨c⟩ spender amount)
  | .transferFrom source recipient amount =>
    answering .receipt (Token.transferFrom ⟨c⟩ source recipient amount)
  | .transfers source recipient fromBlock toBlock =>
    answering .transfers (Token.transfers ⟨c⟩ source recipient fromBlock toBlock)

/-- A session. -/
structure Session where
  /-- The contract that is worked with. -/
  contract : Contract
  /-- The calls that are kept, in the order in which they came. -/
  calls : List (Call Session.Answer) := []
  /-- The replies that are left. -/
  replies : List Reply
  /-- What was asked so far. -/
  requests : List Request := []

namespace Session

/-- A step of a session. -/
inductive Step where
  /-- A call is prepared. -/
  | prepare (action : Action)
  /-- The answer of a kept call is to be worked on further. -/
  | map (index : Nat) (f : Answer → Outcome Answer)
  /-- A kept call is copied. -/
  | copy (index : Nat)
  /-- A kept call is sent. -/
  | send (index : Nat)
  /-- Someone signs from now on. -/
  | withSigner (signer : Signer)
  /-- Simulated calls seem to come from an account from now on. -/
  | withCaller (caller : Address)
  /-- Another contract is worked with from now on. -/
  | use (contract : Contract)

/-- What a step has led to. -/
inductive Report where
  /-- A call is kept under a number. -/
  | kept (index : Nat)
  /-- No call was prepared. -/
  | refused (error : Error)
  /-- A call was sent. -/
  | answered (outcome : Outcome Answer)
  /-- The contract has changed. -/
  | changed
  /-- There is no call under the number. -/
  | noCall

/-- The session with one more kept call. -/
def keep (s : Session) (c : Call Answer) : Session × Report :=
  ({ s with calls := s.calls ++ [c] }, .kept s.calls.length)

/-- The session after a call was sent. -/
def sendCall (s : Session) (c : Call Answer) : Session × Report :=
  let run := c.operation.run s.replies
  ({ s with replies := run.replies, requests := s.requests ++ run.requests }, .answered run.result)

/-- The session after a step. -/
def step (s : Session) : Step → Session × Report
  | .prepare action =>
    match s.contract.prepare action with
    | .ok c => s.keep c
    | .error error => (s, .refused error)
  | .map index f =>
    match s.calls[index]? with
    | some c => s.keep (c.map f)
    | none => (s, .noCall)
  | .copy index =>
    match s.calls[index]? with
    | some c => s.keep c
    | none => (s, .noCall)
  | .send index =>
    match s.calls[index]? with
    | some c => s.sendCall c
    | none => (s, .noCall)
  | .withSigner signer => ({ s with contract := s.contract.withSigner signer }, .changed)
  | .withCaller caller => ({ s with contract := s.contract.withCaller caller }, .changed)
  | .use contract => ({ s with contract }, .changed)

/-- What one sending of a call has led to. -/
structure Sending where
  /-- What was asked. -/
  requests : List Request
  /-- The answer. -/
  outcome : Outcome Answer

/-- The contract that a sending has created. -/
def Sending.contract? (s : Sending) : Option Contract :=
  match s.outcome with
  | .ok (.contract c) => some c
  | _ => none

/-- What a call has led to that was prepared and sent a number of times. -/
structure Performance where
  /-- The call. -/
  call : Call Answer
  /-- What was asked when it was prepared. -/
  before : List Request
  /-- The sendings in order. -/
  sendings : List Sending

/-- The session after a kept call was sent a number of times. -/
def sendTimes (s : Session) (index : Nat) : (times : Nat) → Session × List Sending
  | 0 => (s, [])
  | times + 1 =>
    match s.step (.send index) with
    | (next, .answered outcome) =>
      let (final, sendings) := next.sendTimes index times
      (final, ⟨next.requests.drop s.requests.length, outcome⟩ :: sendings)
    | (next, _) => (next, [])

/-- The session after a call was prepared and sent a number of times. -/
def perform (s : Session) (action : Action) (times : Nat) : Outcome (Session × Performance) := do
  let prepared ← s.contract.prepare action
  let (kept, _) := s.keep prepared
  let (final, sendings) := kept.sendTimes s.calls.length times
  return (final, ⟨prepared, kept.requests.drop s.requests.length, sendings⟩)

/-- The session after steps, and what each has led to. -/
def runSteps (s : Session) : List Step → Session × List Report
  | [] => (s, [])
  | step :: rest =>
    let (next, report) := s.step step
    let (final, reports) := next.runSteps rest
    (final, report :: reports)

end Session

end ContractToolkit
