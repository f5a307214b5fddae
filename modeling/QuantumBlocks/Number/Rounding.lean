/-!
# Rounding a quotient

The natural number nearest to a quotient, a tie going to the even neighbour. Main statements: the
rounding is the quotient or its successor, and a quotient without remainder is its own rounding.
-/

namespace QuantumBlocks.Number

/-! ## To the nearest -/

/-- The number nearest to `num / den`; halfway between two numbers the even one. -/
def roundDiv (num den : Nat) : Nat :=
  let quotient := num / den
  let twice := 2 * (num % den)
  if twice < den then quotient
  else if den < twice then quotient + 1
  else quotient + quotient % 2

/-- The rounding is the quotient or its successor. -/
theorem roundDiv_bounds (num den : Nat) :
    num / den ≤ roundDiv num den ∧ roundDiv num den ≤ num / den + 1 := by
  simp only [roundDiv]
  have := Nat.mod_lt (num / den) (by decide : 2 > 0)
  split
  · omega
  · split <;> omega

/-- A quotient without remainder is its own rounding. -/
theorem roundDiv_mul_right (n : Nat) {den : Nat} (h : 0 < den) : roundDiv (n * den) den = n := by
  simp [roundDiv, Nat.mul_div_cancel n h, Nat.mul_mod_left, h]

end QuantumBlocks.Number
