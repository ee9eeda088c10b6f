/-!
# Sizes of the executing machine

Lengths, offsets and widths are unsigned 64-bit quantities. They are kept as
natural numbers; a sum or a product that leaves the range is seen here, and
nowhere else, as an absent result.
-/

namespace ContractToolkit.Machine

/-- The first number that is no size: sizes have 64 bits. -/
def sizeLimit : Nat := Nat.pow 2 64

/-- Sum of two sizes, absent when it is no size. -/
def add? (a b : Nat) : Option Nat :=
  if a + b < sizeLimit then some (a + b) else none

/-- Product of two sizes, absent when it is no size. -/
def mul? (a b : Nat) : Option Nat :=
  if a * b < sizeLimit then some (a * b) else none

theorem add?_eq_some {a b c : Nat} : add? a b = some c ↔ c = a + b ∧ a + b < sizeLimit := by
  unfold add?
  split <;> simp_all [eq_comm]

theorem mul?_eq_some {a b c : Nat} : mul? a b = some c ↔ c = a * b ∧ a * b < sizeLimit := by
  unfold mul?
  split <;> simp_all [eq_comm]

end ContractToolkit.Machine
