import ContractToolkit.Text.Pieces

/-!
# Paths of files

A path has pieces between slashes. An empty piece and a single point stay in the
folder where they are met, two points lead to the folder above.
-/

namespace ContractToolkit.Files

/-- The pieces of a path. -/
def pieces (path : String) : List String :=
  (Text.piecesBetween '/' path.toList).map String.ofList

/-- Whether a piece of a path stays in the folder where it is met. -/
def staysHere (piece : String) : Bool := piece == "" || piece == "."

/-- The name at the end of a path, if it ends in one. -/
def name? (path : String) : Option String :=
  ((pieces path).filter fun piece => !staysHere piece).getLast?.filter (· != "..")

/-- The part of a name behind its last point, if there is a point and anything before it. -/
def extensionOf? (name : String) : Option String :=
  let backwards := name.toList.reverse
  match backwards.dropWhile (· != '.') with
  | '.' :: _ :: _ => some (String.ofList (backwards.takeWhile (· != '.')).reverse)
  | _ => none

/-- The extension of the name at the end of a path. -/
def extension? (path : String) : Option String := (name? path).bind extensionOf?

end ContractToolkit.Files
