import ContractToolkit.Bytes.Basic

/-!
# Estimated prices

The greatest price and the tip that are offered when nothing is set, from the
base fee of the last block and the tips of the blocks before. While the base fee
is low the tip is fixed; else it is the median of the tips, and of the greater
part of them where they rise steeply. Amounts are in wei.
-/

namespace ContractToolkit.Node

/-- A gwei. -/
def gwei : Nat := Nat.pow 10 9

/-- The tip that is offered at least. -/
def leastTip : Nat := 3 * gwei

/-- The base fee from which on tips are looked at. -/
def busyFee : Nat := 100 * gwei

/-- The base fee with room to rise. -/
def surged (baseFee : Nat) : Nat :=
  if baseFee ≤ 40 * gwei then baseFee * 2
  else if baseFee ≤ 100 * gwei then baseFee * 16 / 10
  else if baseFee ≤ 200 * gwei then baseFee * 14 / 10
  else baseFee * 12 / 10

/-- The rise from each number to the next one, in percent of the first. -/
def rises : List Nat → List Nat
  | a :: b :: rest => (b - a) * 100 / a :: rises (b :: rest)
  | _ => []

/-- The rise from which on it is steep, in percent. -/
def steepRise : Nat := 200

/-- The middle one of numbers in ascending order, the upper one of two. -/
def middle (sorted : List Nat) : Nat := sorted.getD (sorted.length / 2) 0

/-- The tip that others pay, from the first tip of each block. -/
def usualTip (rewards : List (List Nat)) : Nat :=
  let tips := ((rewards.map fun r => r.headD 0).filter (0 < ·)).mergeSort
  let changes := rises tips
  let greatest := changes.foldl max 0
  let place := changes.findIdx (· = greatest)
  if steepRise ≤ greatest ∧ tips.length / 2 ≤ place then middle (tips.drop place)
  else middle tips

/-- The greatest price and the tip. -/
def estimate (baseFee : Nat) (rewards : List (List Nat)) : Nat × Nat :=
  let tip := if baseFee < busyFee then leastTip else max (usualTip rewards) leastTip
  let room := surged baseFee
  (if room < tip then tip + room else room, tip)

end ContractToolkit.Node
