import ContractToolkit.Decimal.Double

/-!
# The fewest digits that read back

The decimal of a finite double is taken from the coarsest decimal grid that has
a point in the interval of reals which round to the double; of two points the
nearer one. Which of two equally near points is taken is left to the caller.
-/

namespace ContractToolkit.Double

/-- Digits times a power of ten. -/
structure Digits where
  /-- The digits as one number, without a trailing zero. -/
  value : Nat
  /-- The power of ten that the last digit counts. -/
  exponent : Int
  deriving DecidableEq, Repr

/-- Which of two equally near decimals is taken. -/
inductive Tie where
  /-- The one whose last digit is even. -/
  | toEven
  /-- The greater one. -/
  | up
  deriving DecidableEq, Repr

/-- Digits without trailing zeros, with fuel for as many as there may be. -/
def Digits.trimmed : (fuel : Nat) → Digits → Digits
  | 0, d => d
  | fuel + 1, d =>
    if d.value ≠ 0 ∧ d.value % 10 = 0 then trimmed fuel ⟨d.value / 10, d.exponent + 1⟩ else d

/-- Numerator and denominator of `n / d * 10 ^ (-e)`. -/
def onGrid (n d : Nat) (e : Int) : Nat × Nat :=
  if 0 ≤ e then (n, d * Nat.pow 10 e.toNat) else (n * Nat.pow 10 (-e).toNat, d)

/-- The greatest exponent of a power of ten that is at most `n / d`, searched downwards from a
bound. -/
def floorLog10 (n d : Nat) : (fuel : Nat) → (bound : Int) → Int
  | 0, bound => bound
  | fuel + 1, bound =>
    let (a, b) := onGrid n d bound
    if b ≤ a then bound else floorLog10 n d fuel (bound - 1)

/-- Four times the magnitude of a positive double, and the two ends of the interval that rounds to
it, all over one denominator. -/
structure Interval where
  /-- Numerator of the double. -/
  centre : Nat
  /-- Numerator of the lower end. -/
  low : Nat
  /-- Numerator of the upper end. -/
  high : Nat
  /-- The denominator. -/
  den : Nat
  /-- Whether the ends round to the double too. -/
  closed : Bool
  deriving Repr

/-- The interval of reals that round to a positive finite double. -/
def interval (d : Double) : Interval :=
  let m := d.significand
  let lower := if d.fraction = 0 ∧ 1 < d.exponentField then 1 else 2
  let (unit, den) := scaled 1 (d.exponent - 2)
  ⟨4 * m * unit, (4 * m - lower) * unit, (4 * m + 2) * unit, den, m % 2 = 0⟩

/-- Whether `x / y` lies in the interval. -/
def Interval.has (i : Interval) (x y : Nat) : Bool :=
  if i.closed then i.low * y ≤ x * i.den && x * i.den ≤ i.high * y
  else i.low * y < x * i.den && x * i.den < i.high * y

/-- The point of the grid `10 ^ e` that stands for the double, if the grid is fine enough. -/
def Interval.point? (i : Interval) (tie : Tie) (e : Int) : Option Nat :=
  let (a, b) := onGrid i.centre i.den e
  let below := a / b
  let inside (k : Nat) : Bool :=
    let (x, y) := if 0 ≤ e then (k * Nat.pow 10 e.toNat, 1) else (k, Nat.pow 10 (-e).toNat)
    i.has x y
  match inside below && below != 0, inside (below + 1) with
  | false, false => none
  | true, false => some below
  | false, true => some (below + 1)
  | true, true =>
    let rest := 2 * (a % b)
    if rest < b then some below
    else if b < rest then some (below + 1)
    else match tie with
      | .up => some (below + 1)
      | .toEven => some (if below % 2 = 0 then below else below + 1)

/-- The first grid that has a point, from the exponent `e` downwards. -/
def Interval.search (i : Interval) (tie : Tie) : (fuel : Nat) → (e : Int) → Digits
  | 0, e => ⟨i.centre / i.den, e⟩
  | fuel + 1, e =>
    match i.point? tie e with
    | some k => ⟨k, e⟩
    | none => i.search tie fuel (e - 1)

/-- The shortest decimal of the magnitude of a finite double. -/
def shortest (tie : Tie) (d : Double) : Digits :=
  if d.isZero then ⟨0, 0⟩
  else
    let i := d.interval
    let bound : Int := ((Nat.log2 i.centre : Int) - (Nat.log2 i.den : Int) + 1) * 30103 / 100000 + 1
    let top := floorLog10 i.centre i.den 4 bound
    (i.search tie 18 top).trimmed 400

end ContractToolkit.Double
