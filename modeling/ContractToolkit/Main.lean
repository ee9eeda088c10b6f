import ContractToolkit.CommandLine.Program
import ContractToolkit.Files.Folder

/-!
# The program on a machine

The words of the command line, the environment and the files are read, and what
a run leaves is written. There is no connection to any node.
-/

namespace ContractToolkit.CommandLine

/-- Why a file cannot be read. -/
def reasonOf : IO.Error → String
  | .noFileOrDirectory .. => Files.Fault.missing.message
  | .inappropriateType _ 20 _ => Files.Fault.notFolder.message
  | .inappropriateType _ 21 _ => Files.Fault.isFolder.message
  | .permissionDenied .. => "Permission denied (os error 13)"
  | e => toString e

/-- The content of a file. -/
def contentOf (path : String) : IO (Except String String) := do
  try
    return .ok (← IO.FS.readFile path)
  catch e =>
    return .error (reasonOf e)

/-- The files that an invocation reads, with their contents. -/
def contentsFor (words : List String) : IO (List (String × Except String String)) :=
  match Invocation.ofWords words with
  | .ok i => i.paths.mapM fun path => do return (path, ← contentOf path)
  | .error _ => return []

/-- The variables of the environment that are set. -/
def variablesSet : IO (List (String × String)) :=
  Settings.variableNames.filterMapM fun name => do
    return (← IO.getEnv name).map fun value => (name, value)

end ContractToolkit.CommandLine

open ContractToolkit CommandLine in
/-- One run of the program. -/
def main (words : List String) : IO UInt32 := do
  let environment ← variablesSet
  let contents ← contentsFor words
  let output := CommandLine.run {
    environment := .ofVariables fun name => environment.lookup name
    file := fun path => (contents.lookup path).getD (.error "")
    network := .silent } words
  IO.print output.out
  IO.eprint output.err
  return UInt32.ofNat output.code
