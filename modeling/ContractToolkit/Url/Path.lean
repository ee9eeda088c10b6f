import ContractToolkit.Text.Pieces
import ContractToolkit.Url.Basic

/-!
# Paths of addresses

A path leads down from a root. A step of one point stays where it is, a step of
two points leads up again, though not above the root and not above the letter of
a drive.
-/

namespace ContractToolkit.Url

/-- A text in lower case, where an octet that stands for a point is one. -/
def plainPoints : List Char → List Char
  | '%' :: '2' :: 'e' :: rest => '.' :: plainPoints rest
  | '%' :: '2' :: 'E' :: rest => '.' :: plainPoints rest
  | c :: rest => c :: plainPoints rest
  | [] => []

/-- Whether a step leads nowhere. -/
def staysHere (step : List Char) : Bool := plainPoints step == ['.']

/-- Whether a step leads up. -/
def leadsUp (step : List Char) : Bool := plainPoints step == ['.', '.']

/-- Whether a text is the letter of a drive. -/
def isDrive : List Char → Bool
  | [letter, mark] => letter.isAlpha && (mark == ':' || mark == '|')
  | _ => false

/-- Whether a step is the letter of a drive up to a mark that could end it. -/
def startsWithDrive : List Char → Bool
  | [letter, mark] => isDrive [letter, mark]
  | letter :: mark :: next :: _ => isDrive [letter, mark] && "/\\?#".toList.contains next
  | _ => false

/-- A path that is being read. -/
structure Steps where
  /-- The steps that have ended, the last one first. -/
  ended : List (List Char) := []
  /-- The step that has not ended. -/
  last : List Char := []
  /-- Whether the path leads to a drive of this machine, whatever machine was named. -/
  onDrive : Bool := false

/-- The steps above the last one. -/
def Steps.up (s : Steps) : Steps :=
  match s.ended with
  | [] => s
  | step :: above => if startsWithDrive step then s else { s with ended := above }

/-- Whether a step is the letter of a drive where one may stand: first in the path of a file. -/
def Steps.isDriveStep (kind : Kind) (s : Steps) (step : List Char) : Bool :=
  kind == .file && s.ended.isEmpty && isDrive step

/-- The steps with one more, which has ended. -/
def Steps.add (kind : Kind) (s : Steps) (step : List Char) : Steps :=
  if leadsUp step then s.up
  else if staysHere step then s
  else if s.isDriveStep kind step then
    { s with ended := [step.take 1 ++ [':']], onDrive := true }
  else { s with ended := step :: s.ended }

/-- The steps with one more, which is the last. -/
def Steps.finish (kind : Kind) (s : Steps) (step : List Char) : Steps :=
  if leadsUp step then s.up
  else if staysHere step then s
  else if s.isDriveStep kind step then { s with last := step.take 1 ++ [':'], onDrive := true }
  else { s with last := step }

/-- The steps of a text behind the root. -/
def Steps.ofChars (kind : Kind) (s : List Char) : Steps :=
  let steps := (Text.piecesAt kind.isSlash s).map (percentEncoded isHiddenInPath)
  Steps.finish kind (steps.dropLast.foldl (Steps.add kind) {}) (steps.getLast?.getD [])

/-- The path of steps from the root on. In the path of a file the root is not repeated. -/
def Steps.text (kind : Kind) (s : Steps) : String :=
  let steps := Text.joinedBy '/' (s.ended.reverse ++ [s.last])
  String.ofList ('/' :: if kind = .file then steps.dropWhile (· == '/') else steps)

end ContractToolkit.Url
