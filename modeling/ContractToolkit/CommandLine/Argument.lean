import ContractToolkit.Abi.Value.OfJson
import ContractToolkit.CommandLine.Fault
import ContractToolkit.Json.Reader

/-!
# Arguments of functions on the command line

A word is read as JSON, or taken as a text if it is none. Where the function
wants a text, the word is always taken as it is.
-/

namespace ContractToolkit.CommandLine

open Abi

/-- The JSON value that a word stands for where a type is wanted. -/
def argumentJson (type : Ty) (word : String) : Json :=
  match type with
  | .string => .string word
  | _ => (Json.ofText word).getD (.string word)

/-- The value that a word stands for. -/
def readArgument (type : Ty) (word : String) : Except Fault Value :=
  (Value.ofJson type (argumentJson type word)).mapError (.argument word type)

/-- The values that words stand for, one by one. -/
def readEach : List Ty → List String → Except Fault (List Value)
  | type :: types, word :: words => do
    let value ← readArgument type word
    return value :: (← readEach types words)
  | _, _ => .ok []

/-- The values that words stand for, as many as there are types. -/
def readArguments (types : List Ty) (words : List String) : Except Fault (List Value) :=
  if types.length = words.length then readEach types words
  else .error (.argumentCount types.length words.length)

end ContractToolkit.CommandLine
