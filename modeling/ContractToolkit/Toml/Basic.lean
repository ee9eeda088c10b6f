import ContractToolkit.Decimal.Layout

/-!
# TOML documents

The values of a TOML document and its tables. A table remembers how it came to
be: a table that a header only passes through, or that a dotted key makes, may
still be extended in ways in which a table under its own header may not.
-/

namespace ContractToolkit

/-- How a table came to be. -/
structure TomlMark where
  /-- It has no header of its own yet. -/
  implicit : Bool
  /-- A dotted key made it. -/
  dotted : Bool
  deriving DecidableEq, Repr

/-- A value or a table of a TOML document. -/
inductive Toml where
  /-- A text. -/
  | string (s : String)
  /-- An integer of 64 bits with a sign. -/
  | integer (n : Int)
  /-- A floating point number. -/
  | double (d : Double)
  /-- A truth value. -/
  | bool (b : Bool)
  /-- A date, a time or both. -/
  | moment
  /-- A sequence of values. -/
  | array (items : List Toml)
  /-- A table written as a value. -/
  | inlineTable (mark : TomlMark) (fields : List (String × Toml))
  /-- A table under a header or made by dotted keys. -/
  | table (mark : TomlMark) (fields : List (String × Toml))
  /-- Tables under headers in double brackets. -/
  | tables (items : List (List (String × Toml)))
  deriving Inhabited

namespace Toml

/-- Fields of a table. -/
abbrev Fields := List (String × Toml)

/-- The field of a name. -/
def field? (name : String) (fields : Fields) : Option Toml :=
  (fields.find? (·.1 = name)).map (·.2)

/-- The fields with one of them replaced, or added at the end. -/
def put (name : String) (value : Toml) : Fields → Fields
  | [] => [(name, value)]
  | (n, v) :: rest => if n = name then (n, value) :: rest else (n, v) :: put name value rest

/-- The fields without one of them. -/
def erase (name : String) (fields : Fields) : Fields := fields.filter (·.1 ≠ name)

/-- The mark of a table under its own header. -/
def ownHeader : TomlMark := ⟨false, false⟩

end Toml

end ContractToolkit
