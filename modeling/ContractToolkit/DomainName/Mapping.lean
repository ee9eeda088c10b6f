import ContractToolkit.DomainName.MappingTable
import ContractToolkit.Text.Pieces

/-!
# Mapping of names

Every character of a name is kept, replaced by others, or refused.
-/

namespace ContractToolkit.DomainName

/-- The characters that stand for a character of a row. -/
def Row.images (r : Row) (c : Char) : List Char :=
  match (Text.piecesBetween '+' r.value).map hexNumber with
  | [first] =>
    if r.value.isEmpty then [] else [Char.ofNat (first + (c.toNat - r.first))]
  | codes => codes.map Char.ofNat

/-- What stands in a name for a character, unless it is refused. -/
def mapped? (c : Char) : Option (List Char) :=
  if isListed refusedRows c then none
  else match rowFor? mappedRows c with
    | none => some [c]
    | some row => some (row.images c)

/-- The text that stands in a name for another one, unless a character is refused. -/
def mappedText? : List Char → Option (List Char)
  | [] => some []
  | c :: rest => do
    let images ← mapped? c
    return images ++ (← mappedText? rest)

end ContractToolkit.DomainName
