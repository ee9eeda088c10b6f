/-!
# Pieces of text

A text cut at separators, and put together again. Every separator ends a piece,
so there is one piece more than there are separators.
-/

namespace ContractToolkit.Text

/-- The pieces between separators, empty ones included. -/
def piecesAt (isSeparator : Char → Bool) : List Char → List (List Char)
  | [] => [[]]
  | c :: rest =>
    match piecesAt isSeparator rest with
    | [] => []
    | piece :: pieces =>
      if isSeparator c then [] :: piece :: pieces else (c :: piece) :: pieces

/-- The pieces between the places of a character. -/
def piecesBetween (mark : Char) (s : List Char) : List (List Char) := piecesAt (· == mark) s

/-- Pieces with a character between each two of them. -/
def joinedBy (mark : Char) : List (List Char) → List Char
  | [] => []
  | [piece] => piece
  | piece :: pieces => piece ++ mark :: joinedBy mark pieces

/-- There is always a piece. -/
theorem piecesAt_ne_nil (isSeparator : Char → Bool) (s : List Char) :
    piecesAt isSeparator s ≠ [] := by
  induction s with
  | nil => simp [piecesAt]
  | cons c rest ih =>
    unfold piecesAt
    split
    · contradiction
    · split <;> simp

/-- A text is what its pieces are when they are put together again. -/
theorem joinedBy_piecesBetween (mark : Char) (s : List Char) :
    joinedBy mark (piecesBetween mark s) = s := by
  unfold piecesBetween
  induction s with
  | nil => rfl
  | cons c rest ih =>
    unfold piecesAt
    split
    · next h => exact absurd h (piecesAt_ne_nil _ rest)
    · next piece pieces h =>
      rw [h] at ih
      split
      · next hc =>
        have hc : c = mark := by simpa using hc
        rw [joinedBy, ih, List.nil_append, hc]
        simp
      · cases pieces with
        | nil => simpa [joinedBy] using ih
        | cons next pieces => simpa [joinedBy] using ih

end ContractToolkit.Text
