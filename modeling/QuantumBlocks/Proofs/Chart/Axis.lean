import QuantumBlocks.Chart.Layout

/-!
# The end of the axis

The axis of a chart ends at a round number that is not below the greatest count, and is one of 64
bits.

* `axisTarget_le_axisEnd`, `le_axisEnd` — what the axis reaches
* `axisEnd_of_lt` — where the axis ends if it cannot go far enough
-/

namespace QuantumBlocks.Chart

open Number

theorem axisTarget_le_maxUnsigned64 (greatest : Nat) : axisTarget greatest ≤ maxUnsigned64 := by
  have hticks : tickCount ≤ maxUnsigned64 := by decide
  exact Nat.max_le.mpr ⟨Nat.min_le_right _ _, hticks⟩

theorem axisTarget_pos (greatest : Nat) : 0 < axisTarget greatest :=
  Nat.lt_of_lt_of_le (by decide) (Nat.le_max_right _ _)

theorem axisStep_pos (target : Nat) : 0 < axisStep target :=
  Nat.mul_pos (by decide) (Nat.pow_pos (by decide))

/-- A number rounded up to a multiple is no smaller. -/
theorem le_roundedUp {n step : Nat} (h : 0 < step) : n ≤ (n + step - 1) / step * step := by
  have hdivided := Nat.div_add_mod' (n + step - 1) step
  have hrest := Nat.mod_lt (n + step - 1) h
  omega

/-- **The axis reaches what it has to reach.** -/
theorem axisTarget_le_axisEnd (greatest : Nat) : axisTarget greatest ≤ axisEnd greatest :=
  Nat.le_min.mpr ⟨le_roundedUp (axisStep_pos _), axisTarget_le_maxUnsigned64 greatest⟩

theorem axisEnd_pos (greatest : Nat) : 0 < axisEnd greatest :=
  Nat.lt_of_lt_of_le (axisTarget_pos greatest) (axisTarget_le_axisEnd greatest)

/-- A tenth more than the greatest count is reached if it is a number of 64 bits. -/
theorem add_tenth_le_axisEnd {greatest : Nat} (h : greatest + greatest / 10 ≤ maxUnsigned64) :
    greatest + greatest / 10 ≤ axisEnd greatest := by
  refine Nat.le_trans ?_ (axisTarget_le_axisEnd greatest)
  rw [axisTarget, Nat.min_eq_left h]
  exact Nat.le_max_left _ _

/-- Where a tenth more is beyond 64 bits, the axis ends at the greatest number of 64 bits. -/
theorem axisEnd_of_lt {greatest : Nat} (h : maxUnsigned64 < greatest + greatest / 10) :
    axisEnd greatest = maxUnsigned64 := by
  refine Nat.le_antisymm (Nat.min_le_right _ _) ?_
  refine Nat.le_trans ?_ (axisTarget_le_axisEnd greatest)
  rw [axisTarget, Nat.min_eq_right (Nat.le_of_lt h)]
  exact Nat.le_max_left _ _

/-- **The axis reaches the greatest count.** -/
theorem le_axisEnd {greatest : Nat} (h : greatest ≤ maxUnsigned64) :
    greatest ≤ axisEnd greatest := by
  rcases Nat.lt_or_ge maxUnsigned64 (greatest + greatest / 10) with hbeyond | hfits
  · rw [axisEnd_of_lt hbeyond]
    exact h
  · exact Nat.le_trans (Nat.le_add_right _ _) (add_tenth_le_axisEnd hfits)

end QuantumBlocks.Chart
