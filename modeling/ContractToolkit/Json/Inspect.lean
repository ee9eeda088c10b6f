import ContractToolkit.Json.Writer
import ContractToolkit.Text.Quoted

/-!
# JSON values set out by kind

The form in which a report shows the data that came with a failure: the kind by
name, then what it holds.
-/

namespace ContractToolkit.Json

mutual

/-- A value by kind. -/
def inspect : Json → String
  | null => "Null"
  | bool b => "Bool(" ++ (if b then "true" else "false") ++ ")"
  | integer n => "Number(" ++ Text.ofInt n ++ ")"
  | double d => "Number(" ++ d.interchange ++ ")"
  | string s => "String(" ++ Text.quoted s ++ ")"
  | array items => "Array [" ++ ", ".intercalate (inspectAll items) ++ "]"
  | object fields => "Object \x7b" ++ ", ".intercalate (inspectFields fields) ++ "\x7d"

/-- Values by kind. -/
def inspectAll : List Json → List String
  | [] => []
  | j :: rest => inspect j :: inspectAll rest

/-- Fields by kind. -/
def inspectFields : List (String × Json) → List String
  | [] => []
  | (key, j) :: rest => (Text.quoted key ++ ": " ++ inspect j) :: inspectFields rest

end

end ContractToolkit.Json
