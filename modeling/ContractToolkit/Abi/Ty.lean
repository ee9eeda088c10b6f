import ContractToolkit.Machine.Size
import ContractToolkit.Text.Number

/-!
# Types of contract parameters

The types that a contract declares for its parameters, their place in an
encoding, and their canonical text. A type may carry widths and lengths that no
contract can declare; `Ty.fault?` in the grammar of types says which.
-/

namespace ContractToolkit.Abi

/-- Octets in one word of an encoding. -/
def wordSize : Nat := 32

/-- A parameter type. -/
inductive Ty where
  /-- An account. -/
  | address
  /-- An unsigned integer of so many bits. -/
  | uint (bits : Nat)
  /-- A two's complement integer of so many bits. -/
  | int (bits : Nat)
  /-- A truth value. -/
  | bool
  /-- A byte string of any length. -/
  | bytes
  /-- A byte string of a declared length. -/
  | fixedBytes (size : Nat)
  /-- A UTF-8 text of any length. -/
  | string
  /-- A sequence of any length. -/
  | array (elem : Ty)
  /-- A sequence of a declared length. -/
  | fixedArray (elem : Ty) (length : Nat)
  /-- Components in a declared order. -/
  | tuple (fields : List Ty)
  deriving Inhabited, Repr

namespace Ty

mutual

/-- Whether two types are the same. -/
def same : Ty → Ty → Bool
  | address, address => true
  | uint m, uint n => m == n
  | int m, int n => m == n
  | bool, bool => true
  | bytes, bytes => true
  | fixedBytes m, fixedBytes n => m == n
  | string, string => true
  | array a, array b => same a b
  | fixedArray a m, fixedArray b n => same a b && m == n
  | tuple as, tuple bs => sameAll as bs
  | _, _ => false

/-- Whether two lists of types are the same. -/
def sameAll : List Ty → List Ty → Bool
  | [], [] => true
  | a :: as, b :: bs => same a b && sameAll as bs
  | _, _ => false

end

mutual

theorem same_iff : ∀ a b : Ty, same a b = true ↔ a = b
  | address, b => by cases b <;> simp [same]
  | uint _, b => by cases b <;> simp [same]
  | int _, b => by cases b <;> simp [same]
  | bool, b => by cases b <;> simp [same]
  | bytes, b => by cases b <;> simp [same]
  | fixedBytes _, b => by cases b <;> simp [same]
  | string, b => by cases b <;> simp [same]
  | array a, b => by cases b <;> simp [same, same_iff a]
  | fixedArray a _, b => by cases b <;> simp [same, same_iff a]
  | tuple as, b => by cases b <;> simp [same, sameAll_iff as]

theorem sameAll_iff : ∀ as bs : List Ty, sameAll as bs = true ↔ as = bs
  | [], bs => by cases bs <;> simp [sameAll]
  | a :: as, bs => by cases bs <;> simp [sameAll, same_iff a, sameAll_iff as]

end

instance : DecidableEq Ty := fun a b => decidable_of_iff _ (same_iff a b)

mutual

/-- Whether values of the type are encoded behind an offset. -/
def isDynamic : Ty → Bool
  | bytes => true
  | string => true
  | array _ => true
  | fixedArray elem _ => isDynamic elem
  | tuple fields => anyDynamic fields
  | _ => false

/-- Whether a type of a list is dynamic. -/
def anyDynamic : List Ty → Bool
  | [] => false
  | t :: rest => isDynamic t || anyDynamic rest

end

mutual

/-- Octets that a value of a static type takes; absent when they are no size. -/
def staticSize : Ty → Option Nat
  | fixedArray elem length => (staticSize elem).bind fun size => Machine.mul? size length
  | tuple fields => staticSizes 0 fields
  | _ => some wordSize

/-- Octets that values of static types take, after `start` octets. -/
def staticSizes (start : Nat) : List Ty → Option Nat
  | [] => some start
  | t :: rest =>
    ((staticSize t).bind fun size => Machine.add? start size).bind fun total =>
      staticSizes total rest

end

/-- Octets that a value takes among the heads of its sequence: one word when it is dynamic, its own
octets otherwise; absent when they are no size. -/
def headSize (t : Ty) : Option Nat := if t.isDynamic then some wordSize else t.staticSize

/-- Whether an indexed event parameter of the type is logged as the digest of its value. -/
def isHashed : Ty → Bool
  | bytes => true
  | string => true
  | array _ => true
  | fixedArray _ _ => true
  | tuple _ => true
  | _ => false

mutual

/-- The canonical text of a type, in front of a text. -/
def charsOnto (after : List Char) : Ty → List Char
  | address => "address".toList ++ after
  | uint bits => "uint".toList ++ (Text.decimal bits ++ after)
  | int bits => "int".toList ++ (Text.decimal bits ++ after)
  | bool => "bool".toList ++ after
  | bytes => "bytes".toList ++ after
  | fixedBytes size => "bytes".toList ++ (Text.decimal size ++ after)
  | string => "string".toList ++ after
  | array elem => charsOnto ('[' :: ']' :: after) elem
  | fixedArray elem length => charsOnto ('[' :: (Text.decimal length ++ ']' :: after)) elem
  | tuple fields => '(' :: listOnto (')' :: after) fields

/-- Canonical texts with commas between them, in front of a text. -/
def listOnto (after : List Char) : List Ty → List Char
  | [] => after
  | [t] => charsOnto after t
  | t :: next :: rest => charsOnto (',' :: listOnto after (next :: rest)) t

end

/-- The canonical text of a type as characters. -/
def chars (t : Ty) : List Char := charsOnto [] t

/-- The canonical text of a type, as it stands in signatures. -/
def canonical (t : Ty) : String := String.ofList t.chars

end Ty

end ContractToolkit.Abi
