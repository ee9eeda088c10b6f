import ContractToolkit.Files.Path

/-!
# Folders

A folder holds files by path, and with them the folders on the way. What is
outside the folder is not known: nothing is found there by name. A path is
followed piece by piece, and the first piece that leads nowhere counts.
-/

namespace ContractToolkit.Files

/-- Why a file cannot be read or written. -/
inductive Fault where
  /-- There is nothing of the name. -/
  | missing
  /-- A file stands where a folder is wanted. -/
  | notFolder
  /-- A folder stands where a file is wanted. -/
  | isFolder
  /-- A name, or the whole path, is too long. -/
  | longName
  /-- A path with a character that ends it. -/
  | ended
  deriving DecidableEq, Repr

/-- Report of a fault. -/
def Fault.message : Fault → String
  | missing => "No such file or directory (os error 2)"
  | notFolder => "Not a directory (os error 20)"
  | isFolder => "Is a directory (os error 21)"
  | longName => "File name too long (os error 36)"
  | ended => "file name contained an unexpected NUL byte"

/-- Octets that a name may have. -/
def greatestName : Nat := 255

/-- Octets that a path may have. -/
def greatestPath : Nat := 4095

/-- A folder: the files in it and in the folders below, by the names on the way to them, with their
contents. -/
structure Folder where
  /-- The files. -/
  files : List (List String × String) := []

/-- What a path leads to. -/
inductive Place where
  /-- A folder, by the names on the way to it. -/
  | folder (names : List String)
  /-- A folder outside. -/
  | outside
  /-- A file with its content. -/
  | file (content : String)
  deriving DecidableEq, Repr

namespace Folder

/-- A folder of files by path. -/
def ofFiles (files : List (String × String)) : Folder where
  files := files.map fun (path, content) =>
    ((pieces path).filter fun piece => !staysHere piece, content)

/-- What stands at the end of names. -/
def find? (f : Folder) (names : List String) : Option Place :=
  match f.files.lookup names with
  | some content => some (.file content)
  | none => if f.files.any fun entry => names.isPrefixOf entry.1 then some (.folder names) else none

/-- What a piece of a path leads to. -/
def step (f : Folder) (place : Place) (piece : String) : Except Fault Place :=
  match place with
  | .file _ => .error .notFolder
  | .outside =>
    if staysHere piece ∨ piece = ".." then .ok .outside
    else if greatestName < piece.utf8ByteSize then .error .longName
    else .error .missing
  | .folder names =>
    if staysHere piece then .ok place
    else if piece = ".." then .ok (if names.isEmpty then .outside else .folder names.dropLast)
    else if greatestName < piece.utf8ByteSize then .error .longName
    else match f.find? (names ++ [piece]) with
      | some place => .ok place
      | none => .error .missing

/-- Where a path starts. -/
def start (path : String) : Place := if path.startsWith "/" then .outside else .folder []

/-- A path that can be followed at all. -/
def checkPath (path : String) : Except Fault Unit :=
  if path.contains '\x00' then .error .ended
  else if path.isEmpty then .error .missing
  else if greatestPath < path.utf8ByteSize then .error .longName
  else .ok ()

/-- The content of the file that a path leads to. -/
def read (f : Folder) (path : String) : Except Fault String := do
  checkPath path
  match ← (pieces path).foldlM f.step (start path) with
  | .file content => return content
  | _ => throw .isFolder

/-- Whether a file can be written at a path. A file that is there is replaced. -/
def checkWrite (f : Folder) (path : String) : Except Fault Unit := do
  checkPath path
  let some name := (pieces path).reverse.find? (· != "") | throw .isFolder
  let above := ((pieces path).reverse.dropWhile (· == "")).tail.reverse
  let place ← above.foldlM f.step (start path)
  if let .file _ := place then throw .notFolder
  if name = "." ∨ name = ".." ∨ path.endsWith "/" then throw .isFolder
  if greatestName < name.utf8ByteSize then throw .longName
  if let .folder names := place then
    if let some (.folder _) := f.find? (names ++ [name]) then throw .isFolder

end Folder

end ContractToolkit.Files
