/-!
# Binary floating point numbers

Numbers of the format binary64, kept as their 64 bits: a sign, eleven bits of
exponent and 52 bits of fraction. A finite number is an integer times a power
of two, so that every operation here is exact arithmetic on natural numbers
followed by one rounding to the nearest number, a tie going to the even one.
-/

namespace ContractToolkit

/-- A number of the format binary64. -/
structure Double where
  /-- Sign, exponent and fraction, most significant first. -/
  bits : BitVec 64
  deriving DecidableEq, Repr

namespace Double

/-- The biased exponent. -/
def exponentField (d : Double) : Nat := d.bits.toNat / Nat.pow 2 52 % Nat.pow 2 11

/-- The fraction bits. -/
def fraction (d : Double) : Nat := d.bits.toNat % Nat.pow 2 52

/-- Whether the sign bit is set. -/
def isNegative (d : Double) : Bool := d.bits.msb

/-- Neither an infinity nor a NaN. -/
def isFinite (d : Double) : Bool := d.exponentField < 2047

/-- Not a number. -/
def isNaN (d : Double) : Bool := d.exponentField = 2047 && d.fraction != 0

/-- A zero of either sign. -/
def isZero (d : Double) : Bool := d.exponentField = 0 && d.fraction = 0

/-- The integer of which a finite number is a multiple by a power of two, sign aside. -/
def significand (d : Double) : Nat :=
  if d.exponentField = 0 then d.fraction else Nat.pow 2 52 + d.fraction

/-- The exponent of that power of two. -/
def exponent (d : Double) : Int :=
  if d.exponentField = 0 then -1074 else (d.exponentField : Int) - 1075

/-- Numerator and denominator of `m * 2 ^ q`. -/
def scaled (m : Nat) (q : Int) : Nat × Nat :=
  if 0 ≤ q then (m * Nat.pow 2 q.toNat, 1) else (m, Nat.pow 2 (-q).toNat)

/-- Numerator and denominator of the magnitude of a finite number. -/
def ratio (d : Double) : Nat × Nat := scaled d.significand d.exponent

/-- The number made of a sign and the lower 63 bits. -/
def ofFields (negative : Bool) (rest : Nat) : Double :=
  ⟨BitVec.ofNat 64 (if negative then Nat.pow 2 63 + rest else rest)⟩

/-- The infinity of a sign. -/
def infinity (negative : Bool) : Double := ofFields negative (2047 * Nat.pow 2 52)

/-- The NaN without a sign. -/
def nan : Double := ofFields false (2047 * Nat.pow 2 52 + Nat.pow 2 51)

/-- The zero of a sign. -/
def zero (negative : Bool) : Double := ofFields negative 0

/-- The nearest integer to a quotient, a tie going to the even one. -/
def roundDiv (num den : Nat) : Nat :=
  let floor := num / den
  let rest := 2 * (num % den)
  if rest < den then floor
  else if den < rest then floor + 1
  else if floor % 2 = 0 then floor else floor + 1

/-- The greatest exponent of a power of two that is at most the quotient of two positive numbers. -/
def floorLog2 (num den : Nat) : Int :=
  let guess : Int := (Nat.log2 num : Int) - (Nat.log2 den : Int)
  let (n, d) := scaled den guess
  if n ≤ num * d then guess else guess - 1

/-- The double nearest to a quotient of natural numbers with a sign. -/
def ofRatio (negative : Bool) (num den : Nat) : Double :=
  if num = 0 then zero negative
  else
    let top := floorLog2 num den
    let q : Int := max (top - 52) (-1074)
    let m :=
      if 0 ≤ q then roundDiv num (den * Nat.pow 2 q.toNat)
      else roundDiv (num * Nat.pow 2 (-q).toNat) den
    let rest : Int := if m < Nat.pow 2 52 then (m : Int) else (q + 1074) * Nat.pow 2 52 + m
    if rest < 2047 * Nat.pow 2 52 then ofFields negative rest.toNat else infinity negative

/-- The double nearest to a natural number with a sign. -/
def ofNat (negative : Bool) (n : Nat) : Double := ofRatio negative n 1

/-- The double nearest to an integer. -/
def ofInt (n : Int) : Double := ofNat (n < 0) n.natAbs

/-- The double nearest to `digits * 10 ^ exponent` with a sign. Exponents that are out of reach are
decided without computing the power. -/
def ofDecimal (negative : Bool) (digits : Nat) (exponent : Int) : Double :=
  let size : Int := (Nat.toDigits 10 digits).length
  if digits = 0 ∨ size + exponent < -330 then zero negative
  else if 310 < size + exponent then infinity negative
  else if 0 ≤ exponent then ofRatio negative (digits * Nat.pow 10 exponent.toNat) 1
  else ofRatio negative digits (Nat.pow 10 (-exponent).toNat)

/-- Product of finite non-negative numbers, rounded. -/
def times (a b : Double) : Double :=
  let (n, d) := a.ratio
  let (n', d') := b.ratio
  ofRatio false (n * n') (d * d')

/-- Quotient of finite non-negative numbers, the second not zero, rounded. -/
def dividedBy (a b : Double) : Double :=
  let (n, d) := a.ratio
  let (n', d') := b.ratio
  ofRatio false (n * d') (d * n')

/-- The number with the sign bit turned. -/
def negate (d : Double) : Double := ⟨d.bits ^^^ (1#64 <<< 63)⟩

/-- Whether the number is at least zero; a NaN is not. -/
def isNonNegative (d : Double) : Bool := !d.isNaN && (!d.isNegative || d.isZero)

/-- Whether a finite number is an integer. -/
def isIntegral (d : Double) : Bool :=
  let (n, den) := d.ratio
  n % den = 0

end Double

end ContractToolkit
