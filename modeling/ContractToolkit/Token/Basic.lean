import ContractToolkit.Remote.Deployment
import ContractToolkit.Token.Standard

/-!
# Tokens

A contract whose functions and events are used as the token standard has them.
The interface of the contract may be any; what does not fit is told when a call
is prepared, or when its answer comes.
-/

namespace ContractToolkit

open Abi Interface Remote

/-- A token. -/
structure Token where
  /-- The contract behind it. -/
  contract : Contract

namespace Token

/-- The token at an address, with the interface of the standard. -/
def load (address : Address) (policy : FeeRule) : Outcome Token := do
  return ⟨.load address (← Outcome.ofDescriptor interface) policy⟩

/-- The token with someone who signs. -/
def withSigner (t : Token) (signer : Signer) : Token := ⟨t.contract.withSigner signer⟩

/-- The first of the return values, if it is of the wanted kind. -/
def single {α : Type} (extract : Value → Option α) (values : List Value) : Outcome α :=
  match values.head?.bind extract with
  | some a => .ok a
  | none => .error (.decode (.returnValues values))

/-- The call of a function that returns something of a kind. -/
def reading {α : Type} (t : Token) (function : String) (args : List Value)
    (extract : Value → Option α) : Outcome (Call α) := do
  return (← t.contract.call function args).map (single extract)

/-- The name of the token. -/
def name (t : Token) : Outcome (Call String) := t.reading "name" [] Value.string?

/-- The short name of the token. -/
def symbol (t : Token) : Outcome (Call String) := t.reading "symbol" [] Value.string?

/-- The lowest eight bits of an unsigned integer. -/
def lowOctet (v : Value) : Option UInt8 := v.uint?.map fun w => UInt8.ofNat (w.toNat % Nat.pow 2 32)

/-- The decimals of amounts for a reader. -/
def decimals (t : Token) : Outcome (Call UInt8) := t.reading "decimals" [] lowOctet

/-- The amount of all tokens. -/
def totalSupply (t : Token) : Outcome (Call Word) := t.reading "totalSupply" [] Value.uint?

/-- The amount that an account holds. -/
def balanceOf (t : Token) (account : Address) : Outcome (Call Word) :=
  t.reading "balanceOf" [.address account] Value.uint?

/-- The amount that an account may spend for another. -/
def allowance (t : Token) (owner spender : Address) : Outcome (Call Word) :=
  t.reading "allowance" [.address owner, .address spender] Value.uint?

/-- Moving an amount to an account. -/
def transfer (t : Token) (recipient : Address) (amount : Word) : Outcome (Call Receipt) :=
  t.contract.send "transfer" [.address recipient, .uint256 amount]

/-- Allowing an account to spend an amount. -/
def approve (t : Token) (spender : Address) (amount : Word) : Outcome (Call Receipt) :=
  t.contract.send "approve" [.address spender, .uint256 amount]

/-- Moving an amount between accounts, as far as it is allowed. -/
def transferFrom (t : Token) (source recipient : Address) (amount : Word) :
    Outcome (Call Receipt) :=
  t.contract.send "transferFrom" [.address source, .address recipient, .uint256 amount]

/-- An amount that has moved. -/
structure Transfer where
  /-- Where it was. -/
  source : Address
  /-- Where it is. -/
  recipient : Address
  /-- The amount. -/
  value : Word
  deriving DecidableEq

/-- An amount that may be spent. -/
structure Approval where
  /-- Whose it is. -/
  owner : Address
  /-- Who may spend it. -/
  spender : Address
  /-- The amount. -/
  value : Word
  deriving DecidableEq

/-- The address under a name in an event. -/
def addressArg (e : DecodedEvent) (name : String) : Outcome Address :=
  match (e.value? name).bind Value.address? with
  | some a => .ok a
  | none => .error (.decode (.noAddress e.name name))

/-- The unsigned integer under a name in an event. -/
def uintArg (e : DecodedEvent) (name : String) : Outcome Word :=
  match (e.value? name).bind Value.uint? with
  | some w => .ok w
  | none => .error (.decode (.noUint e.name name))

/-- The moved amount that an event tells of. -/
def Transfer.ofEvent (e : DecodedEvent) : Outcome Transfer := do
  return ⟨← addressArg e "from", ← addressArg e "to", ← uintArg e "value"⟩

/-- The allowed amount that an event tells of. -/
def Approval.ofEvent (e : DecodedEvent) : Outcome Approval := do
  return ⟨← addressArg e "owner", ← addressArg e "spender", ← uintArg e "value"⟩

/-- The moved amount that a log tells of. -/
def decodeTransfer (t : Token) (log : Log) : Outcome Transfer := do
  let e ← Outcome.ofDescriptor (t.contract.interface.event "Transfer")
  Transfer.ofEvent (← e.decode log)

/-- The allowed amount that a log tells of. -/
def decodeApproval (t : Token) (log : Log) : Outcome Approval := do
  let e ← Outcome.ofDescriptor (t.contract.interface.event "Approval")
  Approval.ofEvent (← e.decode log)

/-- The call that looks for past transfers, from or to accounts where they are given. -/
def transfers (t : Token) (source recipient : Option Address) (fromBlock toBlock : Option Block) :
    Outcome (Call (List Transfer)) := do
  let parties := [source.map Value.address, recipient.map Value.address]
  let found ← t.contract.events "Transfer" parties fromBlock toBlock
  return found.map fun events => events.mapM Transfer.ofEvent

end Token

end ContractToolkit
