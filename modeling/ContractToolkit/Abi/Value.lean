import ContractToolkit.Abi.Ty
import ContractToolkit.Bytes.Hex
import ContractToolkit.Json.Basic

/-!
# Values of contract parameters

A value determines its type: integers carry their declared width, and sequences
the type of their elements, so that an empty sequence is typed too. Nothing
here requires that an integer fits its width or that the elements of a sequence
have the type it declares.
-/

namespace ContractToolkit.Abi

/-- A value. -/
inductive Value where
  /-- An account. -/
  | address (a : Address)
  /-- An unsigned integer declared with so many bits. -/
  | uint (w : Word) (bits : Nat)
  /-- A two's complement integer declared with so many bits. -/
  | int (w : Word) (bits : Nat)
  /-- A truth value. -/
  | bool (b : Bool)
  /-- A byte string of any length. -/
  | bytes (octets : Bytes)
  /-- A byte string whose length is declared. -/
  | fixedBytes (octets : Bytes)
  /-- A text. -/
  | string (s : String)
  /-- A sequence of any length. -/
  | array (elem : Ty) (items : List Value)
  /-- A sequence whose length is declared. -/
  | fixedArray (elem : Ty) (items : List Value)
  /-- Components. -/
  | tuple (items : List Value)
  deriving Inhabited

namespace Value

mutual

/-- Whether two values are the same. -/
def same : Value → Value → Bool
  | address a, address b => a == b
  | uint v m, uint w n => v == w && m == n
  | int v m, int w n => v == w && m == n
  | bool a, bool b => a == b
  | bytes a, bytes b => a == b
  | fixedBytes a, fixedBytes b => a == b
  | string a, string b => a == b
  | array s as, array t bs => decide (s = t) && sameAll as bs
  | fixedArray s as, fixedArray t bs => decide (s = t) && sameAll as bs
  | tuple as, tuple bs => sameAll as bs
  | _, _ => false

/-- Whether two lists of values are the same. -/
def sameAll : List Value → List Value → Bool
  | [], [] => true
  | a :: as, b :: bs => same a b && sameAll as bs
  | _, _ => false

end

mutual

theorem same_iff : ∀ a b : Value, same a b = true ↔ a = b
  | address _, b => by cases b <;> simp [same]
  | uint _ _, b => by cases b <;> simp [same]
  | int _ _, b => by cases b <;> simp [same]
  | bool _, b => by cases b <;> simp [same]
  | bytes _, b => by cases b <;> simp [same]
  | fixedBytes _, b => by cases b <;> simp [same]
  | string _, b => by cases b <;> simp [same]
  | array _ as, b => by cases b <;> simp [same, sameAll_iff as]
  | fixedArray _ as, b => by cases b <;> simp [same, sameAll_iff as]
  | tuple as, b => by cases b <;> simp [same, sameAll_iff as]

theorem sameAll_iff : ∀ as bs : List Value, sameAll as bs = true ↔ as = bs
  | [], bs => by cases bs <;> simp [sameAll]
  | a :: as, bs => by cases bs <;> simp [sameAll, same_iff a, sameAll_iff as]

end

instance : DecidableEq Value := fun a b => decidable_of_iff _ (same_iff a b)

mutual

/-- The type that a value is encoded as. -/
def ty : Value → Ty
  | address _ => .address
  | uint _ bits => .uint bits
  | int _ bits => .int bits
  | bool _ => .bool
  | bytes _ => .bytes
  | fixedBytes octets => .fixedBytes octets.length
  | string _ => .string
  | array elem _ => .array elem
  | fixedArray elem items => .fixedArray elem items.length
  | tuple items => .tuple (tys items)

/-- The types of values. -/
def tys : List Value → List Ty
  | [] => []
  | v :: rest => ty v :: tys rest

end

/-- The 256-bit unsigned integer. -/
def uint256 (w : Word) : Value := uint w 256

/-- The 256-bit signed integer. -/
def int256 (w : Word) : Value := int w 256

/-- The account, of an address. -/
def address? : Value → Option Address
  | address a => some a
  | _ => none

/-- The number, of an unsigned integer. -/
def uint? : Value → Option Word
  | uint w _ => some w
  | _ => none

/-- The number, of a signed integer. -/
def int? : Value → Option Int
  | int w _ => some w.toInt
  | _ => none

/-- The truth value, of a truth value. -/
def bool? : Value → Option Bool
  | bool b => some b
  | _ => none

/-- The text, of a text. -/
def string? : Value → Option String
  | string s => some s
  | _ => none

/-- The octets, of a byte string of either kind. -/
def bytes? : Value → Option Bytes
  | bytes octets => some octets
  | fixedBytes octets => some octets
  | _ => none

/-- The members, of a sequence or a tuple. -/
def members? : Value → Option (List Value)
  | array _ items => some items
  | fixedArray _ items => some items
  | tuple items => some items
  | _ => none

mutual

/-- The JSON form of a value: integers as decimal texts, octets as hexadecimal ones. -/
def toJson : Value → Json
  | address a => .string a.hex
  | uint w _ => .string (Text.ofNat w.toNat)
  | int w _ => .string (Text.ofInt w.toInt)
  | bool b => .bool b
  | bytes octets => .string octets.hex
  | fixedBytes octets => .string octets.hex
  | string s => .string s
  | array _ items => .array (toJsons items)
  | fixedArray _ items => .array (toJsons items)
  | tuple items => .array (toJsons items)

/-- The JSON forms of values. -/
def toJsons : List Value → List Json
  | [] => []
  | v :: rest => toJson v :: toJsons rest

end

mutual

/-- A value for a reader: texts are quoted, sequences stand in brackets, tuples in parentheses. -/
def display : Value → String
  | address a => a.hex
  | uint w _ => Text.ofNat w.toNat
  | int w _ => Text.ofInt w.toInt
  | bool b => if b then "true" else "false"
  | bytes octets => octets.hex
  | fixedBytes octets => octets.hex
  | string s => Text.quoted s
  | array _ items => "[" ++ ", ".intercalate (displays items) ++ "]"
  | fixedArray _ items => "[" ++ ", ".intercalate (displays items) ++ "]"
  | tuple items => "(" ++ ", ".intercalate (displays items) ++ ")"

/-- Values for a reader. -/
def displays : List Value → List String
  | [] => []
  | v :: rest => display v :: displays rest

end

end Value

end ContractToolkit.Abi
