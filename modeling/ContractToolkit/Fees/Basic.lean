import ContractToolkit.Bytes.Basic

/-!
# Fees and fee policies

What is paid for a transaction, in wei, and what decides on it for each function.
Whoever calls a contract may decide by any rule. A policy is a rule that has fees
for functions by signature or by name alone; those for the signature come first,
and the last ones that were set count.
-/

namespace ContractToolkit

/-- What is paid for a transaction. -/
inductive Fees where
  /-- One price for each unit of gas. -/
  | legacy (price : Word) (gasLimit : Option Word)
  /-- A greatest price, and a part of it for the maker of the block. -/
  | eip1559 (maxFee maxPriorityFee : Word) (gasLimit : Option Word)
  /-- The node decides on the price. -/
  | estimate (gasLimit : Option Word)
  deriving DecidableEq, Repr

/-- The greatest amount of gas, if it is not left to the node. -/
def Fees.gasLimit : Fees → Option Word
  | legacy _ limit => limit
  | eip1559 _ _ limit => limit
  | estimate limit => limit

/-- Fees that leave everything to the node. -/
def Fees.unset : Fees := .estimate none

/-- What decides on fees: any function of the signature that a transaction goes under. -/
abbrev FeeRule := (signature : String) → Fees

/-- The same fees for every function. -/
def FeeRule.uniform (fees : Fees) : FeeRule := fun _ => fees

/-- Fees for each function. -/
structure FeePolicy where
  /-- The fees of functions that have none of their own. -/
  fallback : Fees
  /-- The fees of functions by signature or name, in the order in which they were set. -/
  overrides : List (String × Fees)
  deriving DecidableEq, Repr

namespace FeePolicy

/-- The policy in which no function has fees of its own. -/
def uniform (fees : Fees) : FeePolicy := ⟨fees, []⟩

/-- The policy with fees for a function, by its signature or its name. -/
def override (p : FeePolicy) (function : String) (fees : Fees) : FeePolicy :=
  { p with overrides := p.overrides ++ [(function, fees)] }

/-- The fees that were set last for a signature or a name. -/
def last? (p : FeePolicy) (function : String) : Option Fees := p.overrides.reverse.lookup function

/-- The name in a signature. -/
def nameOf (signature : String) : String := String.ofList (signature.toList.takeWhile (· != '('))

/-- The fees for the function with a signature. -/
def feesFor (p : FeePolicy) (signature : String) : Fees :=
  match p.last? signature with
  | some fees => fees
  | none => (p.last? (nameOf signature)).getD p.fallback

/-- A policy is one of the rules that decide on fees. -/
instance : CoeFun FeePolicy fun _ => FeeRule := ⟨feesFor⟩

end FeePolicy

end ContractToolkit
