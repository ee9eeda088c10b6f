/-!
# The curve of signatures

The points of the curve y² = x³ + 7 over the integers modulo a prime, their
sum, and their multiples. The multiples of the base point form a group of prime
order.
-/

namespace ContractToolkit.Signing

/-- The prime of the field. -/
def fieldPrime : Nat := Nat.pow 2 256 - Nat.pow 2 32 - 977

/-- The order of the group. -/
def groupOrder : Nat := 0xfffffffffffffffffffffffffffffffebaaedce6af48a03bbfd25e8cd0364141

/-- The coefficients that extended division ends with, from two remainders and their coefficients.
-/
def inverseFrom : (fuel : Nat) → (r next : Nat) → (t nextT : Int) → Int
  | 0, _, _, t, _ => t
  | fuel + 1, r, next, t, nextT =>
    if next = 0 then t else inverseFrom fuel next (r % next) nextT (t - (r / next : Nat) * nextT)

/-- The inverse of a number modulo a prime; zero has none, and gives zero. -/
def inverse (modulus n : Nat) : Nat :=
  (inverseFrom 600 modulus (n % modulus) 0 1 % (modulus : Int)).toNat

/-- Difference modulo the prime of the field. -/
def fieldSub (a b : Nat) : Nat := (a % fieldPrime + (fieldPrime - b % fieldPrime)) % fieldPrime

/-- A point of the curve. -/
inductive Point where
  /-- The point at infinity. -/
  | zero
  /-- A point by its coordinates. -/
  | affine (x y : Nat)
  deriving DecidableEq, Repr

namespace Point

/-- The third point of a line with a slope through two points, turned over. -/
def third (slope x x' y : Nat) : Point :=
  let x'' := fieldSub (slope * slope) (x + x')
  affine x'' (fieldSub (slope * fieldSub x x'') y)

/-- Sum of two points. -/
def add : Point → Point → Point
  | zero, q => q
  | p, zero => p
  | affine x y, affine x' y' =>
    if x ≠ x' then
      third (fieldSub y' y * inverse fieldPrime (fieldSub x' x) % fieldPrime) x x' y
    else if y ≠ y' ∨ y = 0 then zero
    else third (3 * x * x * inverse fieldPrime (2 * y) % fieldPrime) x x y

/-- Multiple of a point by a number of so many bits. -/
def mulBits (p : Point) : (bits : Nat) → Nat → Point
  | 0, _ => zero
  | bits + 1, n =>
    let half := mulBits p bits (n / 2)
    let double := half.add half
    if n % 2 = 1 then double.add p else double

/-- Multiple of a point by a number of 256 bits. -/
def mul (n : Nat) (p : Point) : Point := mulBits p 256 n

/-- The point that generates the group. -/
def base : Point :=
  affine 0x79be667ef9dcbbac55a06295ce870b07029bfcdb2dce28d959f2815b16f81798
    0x483ada7726a3c4655da4fbfc0e1108a8fd17b448a68554199c47d08ffb10d4b8

end Point

end ContractToolkit.Signing
