import ContractToolkit.Decimal.Double

/-!
# Settings

What a user sets: how to reach a node, what to pay, what to read from, and what
to report. Every setting has a value that holds when nothing is set.
-/

namespace ContractToolkit

namespace Settings

/-- How gas is paid. -/
inductive FeeMode where
  /-- One price for each unit of gas. -/
  | legacy
  /-- A greatest price, and a part of it for the maker of the block. -/
  | eip1559
  /-- The node decides. -/
  | estimate
  deriving DecidableEq, Repr

/-- The spelling of a mode in a configuration file. -/
def FeeMode.name : FeeMode → String
  | legacy => "legacy"
  | eip1559 => "eip1559"
  | estimate => "estimate"

/-- The mode that a configuration file spells. -/
def FeeMode.ofName? (name : String) : Option FeeMode :=
  [legacy, eip1559, estimate].find? (·.name = name)

/-- How to reach a node. -/
structure NodeSettings where
  /-- The address of the node. -/
  url : String := "http://localhost:8545"
  /-- Whether the connection is a web socket. -/
  useWebSocket : Bool := false
  /-- The chain to sign for; the node is asked when it is absent. -/
  chainId : Option Nat := none
  /-- Blocks to wait for after a transaction is in one. -/
  confirmations : Nat := 1
  /-- Seconds that a request may take. -/
  requestTimeout : Nat := 30
  deriving DecidableEq, Repr

/-- What to pay, with prices in gwei. -/
structure FeeSettings where
  /-- How gas is paid. -/
  mode : FeeMode := .estimate
  /-- The price in the mode `legacy`. -/
  gasPrice : Option Double := none
  /-- The greatest price in the mode `eip1559`. -/
  maxFee : Option Double := none
  /-- The part for the maker of the block in the mode `eip1559`. -/
  maxPriorityFee : Option Double := none
  /-- The greatest amount of gas; the node is asked when it is absent. -/
  gasLimit : Option Nat := none
  deriving DecidableEq, Repr

/-- What calls read from. -/
structure CallSettings where
  /-- The block, by its place in the chain or its number. -/
  block : String := "latest"
  /-- The account that calls seem to come from. -/
  caller : Option String := none
  deriving DecidableEq, Repr

/-- What to report. -/
structure LogSettings where
  /-- The least level that is reported, or levels by topic. -/
  level : String := "info"
  /-- Whether reports are JSON. -/
  json : Bool := false
  deriving DecidableEq, Repr

end Settings

/-- What a user sets. -/
structure Settings where
  /-- How to reach a node. -/
  node : Settings.NodeSettings := {}
  /-- What to pay. -/
  fees : Settings.FeeSettings := {}
  /-- What calls read from. -/
  call : Settings.CallSettings := {}
  /-- What to report. -/
  logging : Settings.LogSettings := {}
  deriving DecidableEq, Repr

end ContractToolkit
