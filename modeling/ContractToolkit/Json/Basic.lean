import ContractToolkit.Decimal.Layout
import ContractToolkit.Machine.Size

/-!
# JSON values

A number is an integer of at most 64 bits, signed or not, or a double. The
fields of an object are a list in the order in which they are written;
free-form objects keep their keys in ascending order, each key once.
-/

namespace ContractToolkit

/-- A JSON value. -/
inductive Json where
  /-- The absent value. -/
  | null
  /-- A truth value. -/
  | bool (b : Bool)
  /-- A number without fraction or exponent in the range of 64 bits. -/
  | integer (n : Int)
  /-- Any other number. -/
  | double (d : Double)
  /-- A text. -/
  | string (s : String)
  /-- A sequence of values. -/
  | array (items : List Json)
  /-- Values under keys. -/
  | object (fields : List (String × Json))
  deriving Inhabited

namespace Json

/-- The fields of an object with ascending keys, one of them set. -/
def put (key : String) (value : Json) : List (String × Json) → List (String × Json)
  | [] => [(key, value)]
  | (k, v) :: rest =>
    if key < k then (key, value) :: (k, v) :: rest
    else if key = k then (key, value) :: rest
    else (k, v) :: put key value rest

/-- Fields with ascending keys; of two fields with the same key the later one is kept. -/
def sortedFields (fields : List (String × Json)) : List (String × Json) :=
  fields.foldl (fun acc field => put field.1 field.2 acc) []

/-- A free-form object. -/
def ofFields (fields : List (String × Json)) : Json := object (sortedFields fields)

/-- The field of an object under a key. -/
def field? (key : String) : Json → Option Json
  | object fields => (fields.find? (·.1 = key)).map (·.2)
  | _ => none

/-- The items of an array. -/
def items? : Json → Option (List Json)
  | array items => some items
  | _ => none

/-- The text of a string. -/
def text? : Json → Option String
  | string s => some s
  | _ => none

/-- The truth value. -/
def bool? : Json → Option Bool
  | bool b => some b
  | _ => none

/-- The integer of a number that fits 64 bits without a sign. -/
def unsigned? : Json → Option Nat
  | integer n => if 0 ≤ n ∧ n < Machine.sizeLimit then some n.toNat else none
  | _ => none

/-- The integer of a number that fits 64 bits with a sign. -/
def signed? : Json → Option Int
  | integer n => if -Nat.pow 2 63 ≤ n ∧ n < Nat.pow 2 63 then some n else none
  | _ => none

end Json

end ContractToolkit
