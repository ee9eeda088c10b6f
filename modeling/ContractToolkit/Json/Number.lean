import ContractToolkit.Json.Basic

/-!
# Numbers in JSON text

The grammar of a number and the value it stands for. An integer that fits 64
bits is exact. For any other number the leading digits that fit 64 bits are
taken as an integer, rounded to a double, and scaled by one multiplication with
or division by a power of ten, each of them rounded; further digits only count
for the power. The result can therefore differ from the double nearest to the
text in its last bit. A number beyond the doubles has no value.
-/

namespace ContractToolkit.Json

/-- A number as it is written. -/
structure NumberText where
  /-- Whether a minus sign leads it. -/
  negative : Bool
  /-- The digits before the point. -/
  whole : List Char
  /-- The digits after the point, absent without a point. -/
  fraction : Option (List Char)
  /-- Whether the exponent is negative, and its digits. -/
  exponent : Option (Bool × List Char)
  deriving Repr

/-- The digits at the start of a text and what follows them. -/
def digitRun (s : List Char) : List Char × List Char := s.span Char.isDigit

/-- The fraction at the start of a text, if a point stands there. -/
def readFraction : List Char → Option (Option (List Char) × List Char)
  | '.' :: rest =>
    match digitRun rest with
    | ([], _) => none
    | (digits, rest) => some (some digits, rest)
  | s => some (none, s)

/-- The exponent at the start of a text, if its mark stands there. -/
def readExponent (s : List Char) : Option (Option (Bool × List Char) × List Char) :=
  match s with
  | c :: rest =>
    if c = 'e' ∨ c = 'E' then
      let (negative, rest) := match rest with
        | '+' :: rest => (false, rest)
        | '-' :: rest => (true, rest)
        | rest => (false, rest)
      match digitRun rest with
      | ([], _) => none
      | (digits, rest) => some (some (negative, digits), rest)
    else some (none, s)
  | [] => some (none, [])

/-- Digits that may stand before the point: a zero only alone. -/
def isWhole : List Char → Bool
  | [] => false
  | ['0'] => true
  | '0' :: _ => false
  | _ => true

/-- The number at the start of a text and what follows it. -/
def readNumber (s : List Char) : Option (NumberText × List Char) := do
  let (negative, s) := match s with
    | '-' :: rest => (true, rest)
    | s => (false, s)
  let (whole, s) := digitRun s
  guard (isWhole whole)
  let (fraction, s) ← readFraction s
  let (exponent, s) ← readExponent s
  return (⟨negative, whole, fraction, exponent⟩, s)

/-- The leading digits that, after the number `kept`, still fit 64 bits, and the digits left over.
-/
def keepDigits (kept : Nat) : List Char → Nat × List Char
  | [] => (kept, [])
  | c :: rest =>
    let next := kept * 10 + (c.toNat - '0'.toNat)
    if next < Machine.sizeLimit then keepDigits next rest else (kept, c :: rest)

/-- The largest power of ten that is a double. -/
def maxPower : Nat := 308

/-- A rounded integer scaled by a power of ten, with fuel for the steps; `none` beyond the doubles.
-/
def scaleDouble : (fuel : Nat) → Double → (exponent : Int) → Option Double
  | 0, d, _ => some d
  | fuel + 1, d, exponent =>
    let power := Double.ofDecimal false 1 (exponent.natAbs : Nat)
    if exponent.natAbs ≤ maxPower then
      if 0 ≤ exponent then
        let scaled := d.times power
        if scaled.isFinite then some scaled else none
      else some (d.dividedBy power)
    else if d.isZero then some d
    else if 0 ≤ exponent then none
    else scaleDouble fuel (d.dividedBy (Double.ofDecimal false 1 maxPower)) (exponent + maxPower)

/-- The greatest exponent that is read as a number. -/
def exponentLimit : Nat := Nat.pow 2 31 - 1

/-- The double that a number text stands for. -/
def NumberText.toDouble (n : NumberText) : Option Double := do
  let (kept, lost) := keepDigits 0 n.whole
  let fraction := n.fraction.getD []
  let (kept, cut) := keepDigits kept fraction
  let placed : Int := (lost.length : Int) - ((fraction.length - cut.length : Nat) : Int)
  let magnitude ← match n.exponent with
    | none => scaleDouble 8 (Double.ofNat false kept) placed
    | some (negative, digits) =>
      let exponent := Text.decimalValue digits
      if exponentLimit < exponent then
        if kept ≠ 0 ∧ !negative then none else some (Double.zero false)
      else
        let total := if negative then placed - exponent else placed + exponent
        scaleDouble 8 (Double.ofNat false kept) (max total (-1000))
  return if n.negative then magnitude.negate else magnitude

/-- The value of a number text: an integer where 64 bits hold it, else a double. -/
def NumberText.value? (n : NumberText) : Option Json :=
  match n.fraction, n.exponent with
  | none, none =>
    let magnitude := Text.decimalValue n.whole
    if n.negative then
      if 0 < magnitude ∧ magnitude ≤ Nat.pow 2 63 then some (.integer (-magnitude))
      else n.toDouble.map .double
    else if magnitude < Machine.sizeLimit then some (.integer magnitude)
    else n.toDouble.map .double
  | _, _ => n.toDouble.map .double

end ContractToolkit.Json
