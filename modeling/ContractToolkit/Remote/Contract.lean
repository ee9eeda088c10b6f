import ContractToolkit.Remote.Client

/-!
# Deployed contracts

A contract at an address, with its interface and the client that its calls go
through. The client of a contract knows the errors of its interface.
-/

namespace ContractToolkit

open Abi Interface Remote

/-- A deployed contract. -/
structure Contract where
  /-- Where it is. -/
  address : Address
  /-- What it declares. -/
  interface : Interface
  /-- What its calls go through. -/
  client : Client

namespace Contract

/-- The contract at an address, with a client that from now on knows its errors. -/
def bind (address : Address) (interface : Interface) (client : Client) : Contract :=
  ⟨address, interface, { client with errors := interface.errors }⟩

/-- The contract at an address, with a client that only has fees. -/
def load (address : Address) (interface : Interface) (policy : FeeRule) : Contract :=
  bind address interface { policy }

/-- The contract with someone who signs. -/
def withSigner (c : Contract) (signer : Signer) : Contract :=
  { c with client := { c.client with signer := some signer } }

/-- The contract with an account that simulated calls seem to come from. -/
def withCaller (c : Contract) (caller : Address) : Contract :=
  { c with client := { c.client with caller := some caller } }

/-- The function that a key stands for. -/
def method (c : Contract) (key : String) : Outcome Method :=
  Outcome.ofDescriptor (c.interface.method key)

/-- A simulated call of a function, by its name or signature. -/
def call (c : Contract) (function : String) (args : List Value) : Outcome (Call (List Value)) := do
  c.client.read (← c.method function) c.address args

/-- A simulated call of a function on the state of a block. -/
def callAt (c : Contract) (function : String) (args : List Value) (block : Block) :
    Outcome (Call (List Value)) := do
  c.client.readAt (← c.method function) c.address args block

/-- A submitted call of a function. -/
def send (c : Contract) (function : String) (args : List Value) : Outcome (Call Receipt) := do
  c.client.write (← c.method function) c.address args 0

/-- A submitted call of a function, with native value. -/
def sendWithValue (c : Contract) (function : String) (args : List Value) (value : Word) :
    Outcome (Call Receipt) := do
  c.client.write (← c.method function) c.address args value

/-- The call of a function, simulated if it only reads and submitted otherwise. -/
def dispatch (c : Contract) (function : String) (args : List Value) :
    Outcome (Call Client.Effect) := do
  c.client.dispatch (← c.method function) c.address args

/-- The call that looks for past logs of an event, by its name or signature, with the wanted values
of indexed parameters. A log that is none of the event makes it fail as a whole. -/
def events (c : Contract) (event : String) (indexed : List (Option Value))
    (fromBlock toBlock : Option Block) : Outcome (Call (List DecodedEvent)) := do
  let e ← Outcome.ofDescriptor (c.interface.event event)
  let filter ← e.filter c.address indexed
  return ⟨e.signature, .logs { filter with fromBlock, toBlock } fun answer =>
    .done ((answer.mapError (Client.explain c.interface.errors)).bind fun logs =>
      logs.mapM e.decode)⟩

/-- The event that a log holds. -/
def decodeLog (c : Contract) (log : Log) : Outcome DecodedEvent := c.interface.decodeLog log

/-- The events that the contract has logged in a transaction. -/
def decodeReceipt (c : Contract) (receipt : Receipt) : Outcome (List DecodedEvent) :=
  c.interface.decodeReceipt (some c.address) receipt.logs

/-- The reason that revert data gives. -/
def revertReason (c : Contract) (data : Bytes) : String := c.interface.revertReason data

/-- The function that call data selects, and its arguments. -/
def decodeCalldata (c : Contract) (calldata : Bytes) : Outcome (String × List Value) :=
  c.interface.decodeCalldata calldata

end Contract

end ContractToolkit
