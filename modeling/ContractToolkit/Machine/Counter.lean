/-!
# Counters of the executing machine

A counter is a signed 32-bit quantity, kept as an integer. A count that does not
fit stops the machine or leaves its lowest 32 bits in the counter, as the program
was built.
-/

namespace ContractToolkit.Machine

/-- What the machine does with a count that does not fit. -/
inductive Arithmetic where
  /-- It stops. -/
  | checked
  /-- It goes on with the lowest 32 bits. -/
  | wrapping
  deriving DecidableEq, Repr

/-- The first number above all counts: a counter has 32 bits, and one of them is for the sign. -/
def countLimit : Nat := Nat.pow 2 31

theorem countLimit_eq : countLimit = 2147483648 := rfl

/-- The number whose lowest 32 bits are those of a count. -/
def held (n : Int) : Int := (Int32.ofInt n).toInt

/-- A count as the machine goes on with it, absent when it stops. -/
def Arithmetic.count? (n : Int) : Arithmetic → Option Int
  | checked => if held n = n then some n else none
  | wrapping => some (held n)

/-- A number in the range of a counter is held as itself. -/
theorem held_of_fits {n : Int} (low : -countLimit ≤ n) (high : n < countLimit) : held n = n := by
  rw [countLimit_eq] at low high
  exact Int32.toInt_ofInt_of_le low high

/-- What is held is in the range of a counter. -/
theorem held_fits (n : Int) : -countLimit ≤ held n ∧ held n < countLimit :=
  ⟨Int32.le_toInt _, Int32.toInt_lt _⟩

/-- What was held before does not matter to what is held of a sum. -/
theorem held_add (m n : Int) : held (held m + n) = held (m + n) := by
  simp only [held, Int32.toInt_ofInt, Int.bmod_add_bmod]

/-- What is held of a count that is too large, but not twice as large, is negative. -/
theorem held_neg {n : Nat} (low : countLimit ≤ n) (high : n < 2 * countLimit) : held n < 0 := by
  have hsize : (Int32.size : Int) = 4294967296 := rfl
  rw [countLimit_eq] at low high
  rw [held, Int32.toInt_ofInt, Int.bmod_def, hsize]
  omega

/-- A count in the range of a counter is kept, whatever the arithmetic. -/
theorem count?_of_fits {n : Int} (low : -countLimit ≤ n) (high : n < countLimit)
    (a : Arithmetic) : a.count? n = some n := by
  have hheld := held_of_fits low high
  cases a with
  | checked => exact if_pos hheld
  | wrapping => exact congrArg some hheld

/-- A checked machine stops at a count above all others. -/
theorem count?_checked_eq_none {n : Int} (h : countLimit ≤ n) :
    Arithmetic.checked.count? n = none := by
  refine if_neg fun hheld => ?_
  have hfits := (held_fits n).2
  omega

end ContractToolkit.Machine
