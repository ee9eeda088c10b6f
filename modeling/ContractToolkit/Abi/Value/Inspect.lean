import ContractToolkit.Abi.Value

/-!
# Values set out by kind

The form in which a report shows a value that has an unexpected kind: the kind
by name, then what it holds.
-/

namespace ContractToolkit.Abi

/-- Texts in brackets with commas between them. -/
def bracketed (texts : List String) : String := "[" ++ ", ".intercalate texts ++ "]"

mutual

/-- A type by kind. -/
def Ty.inspect : Ty → String
  | .address => "Address"
  | .uint bits => "Uint(" ++ Text.ofNat bits ++ ")"
  | .int bits => "Int(" ++ Text.ofNat bits ++ ")"
  | .bool => "Bool"
  | .bytes => "Bytes"
  | .fixedBytes size => "FixedBytes(" ++ Text.ofNat size ++ ")"
  | .string => "String"
  | .array elem => "Array(" ++ Ty.inspect elem ++ ")"
  | .fixedArray elem length =>
    "FixedArray(" ++ Ty.inspect elem ++ ", " ++ Text.ofNat length ++ ")"
  | .tuple fields => "Tuple(" ++ bracketed (Ty.inspectAll fields) ++ ")"

/-- Types by kind. -/
def Ty.inspectAll : List Ty → List String
  | [] => []
  | t :: rest => Ty.inspect t :: Ty.inspectAll rest

end

/-- The numbers of octets. -/
def inspectBytes (octets : Bytes) : String := bracketed (octets.map fun b => Text.ofNat b.toNat)

mutual

/-- A value by kind. -/
def Value.inspect : Value → String
  | .address a => "Address(" ++ a.hex ++ ")"
  | .uint w bits => "Uint(" ++ Text.ofNat w.toNat ++ ", " ++ Text.ofNat bits ++ ")"
  | .int w bits => "Int(" ++ Text.ofInt w.toInt ++ ", " ++ Text.ofNat bits ++ ")"
  | .bool b => if b then "Bool(true)" else "Bool(false)"
  | .bytes octets => "Bytes(" ++ inspectBytes octets ++ ")"
  | .fixedBytes octets => "FixedBytes(" ++ inspectBytes octets ++ ")"
  | .string s => "String(" ++ Text.quoted s ++ ")"
  | .array elem items =>
    "Array(" ++ elem.inspect ++ ", " ++ bracketed (Value.inspectAll items) ++ ")"
  | .fixedArray elem items =>
    "FixedArray(" ++ elem.inspect ++ ", " ++ bracketed (Value.inspectAll items) ++ ")"
  | .tuple items => "Tuple(" ++ bracketed (Value.inspectAll items) ++ ")"

/-- Values by kind. -/
def Value.inspectAll : List Value → List String
  | [] => []
  | v :: rest => Value.inspect v :: Value.inspectAll rest

end

end ContractToolkit.Abi
