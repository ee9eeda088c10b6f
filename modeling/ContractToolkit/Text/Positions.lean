import ContractToolkit.Machine.Size
import ContractToolkit.Machine.Counter

/-!
# Octet positions in texts

A place in a text is named by the number of octets in front of it. A text can be
cut there only where a character begins, or at the end of the text; every other
cut is a slip that no machine goes on from, and so are a sum that is no size, a
difference below zero, and a count that does not fit where counts are checked.
-/

namespace ContractToolkit.Text

/-- The number of octets of a text. -/
def octetCount (s : List Char) : Nat := s.foldr (fun c count => c.utf8Size + count) 0

/-- The text in front of a position and the text behind it; absent where the position is inside of
a character or past the end. -/
def cutAt? : (position : Nat) → List Char → Option (List Char × List Char)
  | 0, s => some ([], s)
  | _ + 1, [] => none
  | position + 1, c :: rest =>
    if c.utf8Size ≤ position + 1 then
      (cutAt? (position + 1 - c.utf8Size) rest).map fun (front, behind) => (c :: front, behind)
    else none

/-- The position of the first occurrence of a character. -/
def positionOf? (mark : Char) : List Char → Option Nat
  | [] => none
  | c :: rest => if c = mark then some 0 else (positionOf? mark rest).map (c.utf8Size + ·)

/-- The characters of a text with their positions, the first of them being at `position`. -/
def positioned (position : Nat) : List Char → List (Nat × Char)
  | [] => []
  | c :: rest => (position, c) :: positioned (position + c.utf8Size) rest

/-- What a machine does not go on from. -/
inductive Slip where
  /-- A sum that is no size, or a count that does not fit. -/
  | overflow
  /-- A difference below zero. -/
  | underflow
  /-- A cut inside of a character, past the end of the text, or behind the cut that it begins at. -/
  | cut
  deriving DecidableEq, Repr

/-- The sum of two sizes. -/
def plus (a b : Nat) : Except Slip Nat :=
  match Machine.add? a b with
  | some c => .ok c
  | none => .error .overflow

/-- The difference of two sizes. -/
def minus (a b : Nat) : Except Slip Nat := if b ≤ a then .ok (a - b) else .error .underflow

/-- The text between two positions. -/
def slice (s : List Char) (start stop : Nat) : Except Slip (List Char) :=
  match (cutAt? stop s).bind fun (front, _) => cutAt? start front with
  | some (_, middle) => .ok middle
  | none => .error .cut

/-- A count as the machine goes on with it. -/
def counted (a : Machine.Arithmetic) (n : Int) : Except Slip Int :=
  match a.count? n with
  | some k => .ok k
  | none => .error .overflow

end ContractToolkit.Text
