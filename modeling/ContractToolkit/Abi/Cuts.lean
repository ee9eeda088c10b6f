import ContractToolkit.Abi.Components
import ContractToolkit.Text.Positions

/-!
# Cutting at counted brackets

The scanners of component lists as the machine runs them: the text is cut at
octet positions, and the open brackets are counted in a counter, which may be
full.
-/

namespace ContractToolkit.Abi

open Text

/-- The components of a text from a position on. The component under way begins at `start` and those
in front of it are `parts`; absent when brackets do not match. -/
def cutFrom (a : Machine.Arithmetic) (text : List Char) (depth : Int) (start : Nat)
    (parts : List (List Char)) : List (Nat × Char) → Except Slip (Option (List (List Char)))
  | [] =>
    if depth ≠ 0 then .ok none
    else do
      let last ← slice text start (octetCount text)
      let listed := if trim last ≠ [] ∨ parts ≠ [] then parts ++ [trim last] else parts
      return some listed
  | (position, c) :: rest =>
    if isOpening c then do
      let deeper ← counted a (depth + 1)
      cutFrom a text deeper start parts rest
    else if isClosing c then do
      let left ← counted a (depth - 1)
      if left < 0 then return none else cutFrom a text left start parts rest
    else if c = ',' ∧ depth = 0 then do
      let part ← slice text start position
      let next ← plus position 1
      cutFrom a text depth next (parts ++ [trim part]) rest
    else cutFrom a text depth start parts rest

/-- The components of a list, cut at positions. -/
def cutComponents (a : Machine.Arithmetic) (s : List Char) :
    Except Slip (Except DescriptorFault (List (List Char))) := do
  match ← cutFrom a s 0 0 [] (positioned 0 s) with
  | none => return .error (.unbalancedParentheses (String.ofList s))
  | some parts =>
    if parts.any List.isEmpty then return .error (.emptyComponent (String.ofList s))
    else return .ok parts

/-- The position of the first white space outside of all brackets, from a position on. -/
def wordEndFrom (a : Machine.Arithmetic) (depth : Int) :
    List (Nat × Char) → Except Slip (Option Nat)
  | [] => .ok none
  | (position, c) :: rest =>
    if isOpening c then do
      let deeper ← counted a (depth + 1)
      wordEndFrom a deeper rest
    else if isClosing c then do
      let left ← counted a (depth - 1)
      wordEndFrom a left rest
    else if isBlank c ∧ depth = 0 then .ok (some position)
    else wordEndFrom a depth rest

/-- The first word of a component and what follows it, cut at positions. -/
def cutFirstWord (a : Machine.Arithmetic) (s : List Char) :
    Except Slip (List Char × List Char) := do
  let word ← match ← wordEndFrom a 0 (positioned 0 s) with
    | none => .ok s
    | some stop => slice s 0 stop
  let after ← slice s (octetCount word) (octetCount s)
  return (word, after)

end ContractToolkit.Abi
