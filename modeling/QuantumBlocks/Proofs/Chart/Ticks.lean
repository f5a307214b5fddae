import QuantumBlocks.Chart.Picture
import QuantumBlocks.Proofs.Chart.Axis
import Mathlib.Algebra.GroupWithZero.Nat
import Mathlib.Data.List.Infix

/-!
# Ticks

The axis of a chart has a tick at each of its quarters. As long as the round number at which the
axis is to end is one of 64 bits, it can be divided by four, every label is a number of quarters,
and the lines stand 90 pixels apart. Where the axis has to end at the greatest number of 64 bits
instead, labels and lines are a little too low.

* `axisStep_eq_of_le`, `axisStep_le_of_lt` — the steps between round numbers
* `tickCount_dvd_axisEnd_iff` — the greatest counts whose axis has quarters
* `ticks_exact_iff` — what the ticks show
-/

namespace QuantumBlocks.Chart

open Number

/-! ## Round numbers -/

/-- A number rounded up to a multiple is less than a step away. -/
theorem roundedUp_lt {n step : Nat} (h : 0 < step) : (n + step - 1) / step * step < n + step := by
  have hdivided := Nat.div_mul_le_self (n + step - 1) step
  omega

/-- A number rounded up to a multiple does not pass a multiple that is no smaller. -/
theorem roundedUp_le {n step times : Nat} (h : 0 < step) (hn : n ≤ times * step) :
    (n + step - 1) / step * step ≤ times * step := by
  refine Nat.mul_le_mul_right step (Nat.le_of_lt_succ ?_)
  rw [Nat.div_lt_iff_lt_mul h, Nat.succ_mul]
  omega

/-- A number rounded up to a multiple passes every multiple that is smaller. -/
theorem succ_mul_le_roundedUp {n step times : Nat} (h : 0 < step) (hn : times * step < n) :
    (times + 1) * step ≤ (n + step - 1) / step * step := by
  refine Nat.mul_le_mul_right step ?_
  rw [Nat.le_div_iff_mul_le h, Nat.succ_mul]
  omega

/-! ## Steps -/

theorem axisStep_le_of_lt {target k : Nat} (hk : 2 ≤ k) (h : target < 10 ^ k) :
    axisStep target ≤ tickCount * 10 ^ (k - 2) := by
  have hdigits := (Nat.length_toDigits_le_iff (by decide) (by omega)).mpr h
  exact Nat.mul_le_mul_left tickCount (Nat.pow_le_pow_right (by decide) (by omega))

/-- The steps are greatest for numbers of twenty digits, and these are all the longest of 64
bits. -/
theorem axisStep_eq_of_le {target : Nat} (hlow : 10 ^ 19 ≤ target)
    (hhigh : target ≤ maxUnsigned64) : axisStep target = 4 * 10 ^ 18 := by
  have hbits : maxUnsigned64 < 10 ^ 20 := by decide
  have hmost : (Nat.toDigits 10 target).length ≤ 20 :=
    (Nat.length_toDigits_le_iff (by decide) (by decide)).mpr (by omega)
  have hleast : ¬(Nat.toDigits 10 target).length ≤ 19 := by
    rw [Nat.length_toDigits_le_iff (by decide) (by decide)]
    omega
  have hlength : (Nat.toDigits 10 target).length = 20 := by omega
  rw [axisStep, hlength]
  rfl

/-! ## Axes with quarters -/

/-- The number at which an axis is to end, if it is not too great. -/
def roundedTarget (greatest : Nat) : Nat :=
  (axisTarget greatest + axisStep (axisTarget greatest) - 1) / axisStep (axisTarget greatest)
    * axisStep (axisTarget greatest)

theorem axisEnd_eq_min (greatest : Nat) :
    axisEnd greatest = min (roundedTarget greatest) maxUnsigned64 := rfl

theorem tickCount_dvd_roundedTarget (greatest : Nat) : tickCount ∣ roundedTarget greatest :=
  Nat.dvd_mul_left_of_dvd (Nat.dvd_mul_right _ _) _

/-- The round numbers of twenty digits are far apart, and only the first ones have 64 bits. -/
theorem roundedTarget_le_iff (greatest : Nat) :
    roundedTarget greatest ≤ maxUnsigned64 ↔ greatest + greatest / 10 ≤ 16 * 10 ^ 18 := by
  have hbits : maxUnsigned64 = 18446744073709551615 := by decide
  have hticks : tickCount = 4 := rfl
  have htarget := axisTarget_le_maxUnsigned64 greatest
  have hstep := axisStep_pos (axisTarget greatest)
  have hdef : axisTarget greatest = max (min (greatest + greatest / 10) maxUnsigned64) tickCount :=
    rfl
  constructor
  · intro hround
    by_contra hgreat
    -- Beyond four steps the next round number is five of them.
    have hmany : 4 * (4 * 10 ^ 18) < axisTarget greatest := by omega
    have hfour := axisStep_eq_of_le (by omega) htarget
    rw [roundedTarget, hfour] at hround
    have hnext := succ_mul_le_roundedUp (by decide) hmany
    omega
  · intro hsmall
    rcases Nat.lt_or_ge (axisTarget greatest) (10 ^ 19) with hlow | hhigh
    · have hshort := axisStep_le_of_lt (by decide) hlow
      have hlt := roundedUp_lt (n := axisTarget greatest) hstep
      rw [roundedTarget]
      omega
    · have hfour := axisStep_eq_of_le hhigh htarget
      rw [roundedTarget, hfour]
      have hle : (axisTarget greatest + 4 * 10 ^ 18 - 1) / (4 * 10 ^ 18) * (4 * 10 ^ 18)
          ≤ 4 * (4 * 10 ^ 18) := roundedUp_le (by decide) (by omega)
      omega

/-- **The greatest counts whose axis has quarters.** -/
theorem tickCount_dvd_axisEnd_iff (greatest : Nat) :
    tickCount ∣ axisEnd greatest ↔ greatest + greatest / 10 ≤ 16 * 10 ^ 18 := by
  rw [← roundedTarget_le_iff, axisEnd_eq_min]
  constructor
  · intro hquarters
    by_contra hround
    rw [Nat.min_eq_right (by omega)] at hquarters
    revert hquarters
    decide
  · intro hround
    rw [Nat.min_eq_left hround]
    exact tickCount_dvd_roundedTarget greatest

theorem axisEnd_eq_of_not_dvd {greatest : Nat} (h : ¬tickCount ∣ axisEnd greatest) :
    axisEnd greatest = maxUnsigned64 := by
  rw [tickCount_dvd_axisEnd_iff, ← roundedTarget_le_iff] at h
  rw [axisEnd_eq_min, Nat.min_eq_right (by omega)]

/-! ## Labels and lines -/

section Quarters

variable {axis : Nat}

/-- The label of a tick is a number of quarters. -/
theorem tickCount_mul_tickValue (h : tickCount ∣ axis) (tick : Nat) :
    tickCount * tickValue axis tick = tick * axis := by
  rw [tickValue, ← Nat.mul_assoc, Nat.mul_div_cancel' h, Nat.mul_comm]

/-- The lines of ticks stand 90 pixels apart. -/
theorem heightOf_tickValue (h : tickCount ∣ axis) (hpos : 0 < axis) (tick : Nat) :
    heightOf (tickValue axis tick) axis = 90 * tick := by
  have hquarters := tickCount_mul_tickValue h tick
  have hheight : plotHeight = 90 * tickCount := rfl
  rw [heightOf, hheight]
  refine Nat.div_eq_of_eq_mul_left hpos ?_
  calc tickValue axis tick * (90 * tickCount)
      = 90 * (tickCount * tickValue axis tick) := by
        rw [Nat.mul_left_comm, Nat.mul_comm (tickValue axis tick)]
    _ = 90 * tick * axis := by rw [hquarters, Nat.mul_assoc]

theorem tickRow_eq (h : tickCount ∣ axis) (hpos : 0 < axis) (tick : Nat) :
    tickRow axis tick = plotBottom - 90 * tick := by
  rw [tickRow, heightOf_tickValue h hpos]

end Quarters

/-- On the greatest axis all labels but the first are less than their quarters, and the lines stand
a pixel too low. -/
theorem tick_of_maxUnsigned64 {tick : Nat} (hpos : 0 < tick) (hle : tick ≤ tickCount) :
    tickCount * tickValue maxUnsigned64 tick < tick * maxUnsigned64 ∧
      tickRow maxUnsigned64 tick = plotBottom - 90 * tick + 1 := by
  have hall : ∀ tick ≤ tickCount, 0 < tick →
      tickCount * tickValue maxUnsigned64 tick < tick * maxUnsigned64 ∧
        tickRow maxUnsigned64 tick = plotBottom - 90 * tick + 1 := by decide
  exact hall tick hle hpos

/-! ## What the ticks show -/

/-- A tick that stands at a row, with its line across the plot and a number to its left. -/
def labelledTick (tick row value : Nat) : Drawing :=
  gridMarks row tick ++ [⟨⟨plotLeft - 5, row, 5, 1⟩, .axis⟩]
    ++ textMarks (toString value).toList (plotLeft - 8 - textWidth (toString value) 1)
      (row - glyphHeight / 2) 1

theorem tickMarks_eq (axis tick : Nat) :
    tickMarks axis tick = labelledTick tick (tickRow axis tick) (tickValue axis tick) := rfl

/-- A chart has the ticks of its axis. -/
theorem tickMarks_isInfix_drawing (h : Histogram) {tick : Nat} (htick : tick ≤ tickCount) :
    tickMarks (axisEnd h.maxCount) tick <:+: drawing h := by
  have hticks : tickMarks (axisEnd h.maxCount) tick <:+: ticksMarks (axisEnd h.maxCount) :=
    List.infix_of_mem_flatten
      (List.mem_map_of_mem (List.mem_range.mpr (Nat.lt_succ_of_le htick)))
  unfold drawing
  simp only [List.append_assoc]
  exact hticks.trans ((List.prefix_append _ _).isInfix.trans (List.suffix_append _ _).isInfix)

/-- The ticks of every chart with this greatest count divide the axis into four: the label of each
is a number of quarters, the lines stand 90 pixels apart, and the last one is the upper edge of the
plot. -/
structure ExactTicks (greatest : Nat) : Prop where
  quarters : tickCount ∣ axisEnd greatest
  shown : ∀ h : Histogram, h.maxCount = greatest → ∀ tick ≤ tickCount, ∃ value,
    tickCount * value = tick * axisEnd greatest ∧
      labelledTick tick (plotBottom - 90 * tick) value <:+: drawing h
  top : tickRow (axisEnd greatest) tickCount = plotTop

theorem exactTicks_iff (greatest : Nat) :
    ExactTicks greatest ↔ greatest + greatest / 10 ≤ 16 * 10 ^ 18 := by
  rw [← tickCount_dvd_axisEnd_iff]
  refine ⟨ExactTicks.quarters, fun hquarters => ⟨hquarters, fun h hmax tick htick => ?_, ?_⟩⟩
  · refine ⟨tickValue (axisEnd greatest) tick, tickCount_mul_tickValue hquarters tick, ?_⟩
    rw [← tickRow_eq hquarters (axisEnd_pos greatest), ← tickMarks_eq, ← hmax]
    exact tickMarks_isInfix_drawing h htick
  · rw [tickRow_eq hquarters (axisEnd_pos greatest)]
    rfl

/-- **What the ticks show.** The axis of a chart reaches its greatest count. Its ticks divide it
into four exactly as long as the greatest count with a tenth of it is at most `16 * 10 ^ 18`. Beyond
that the axis ends at the greatest number of 64 bits, which has no quarters: every label but the
first is too small, and every line but the first is a pixel too low. -/
theorem ticks_exact_iff (greatest : Nat) (hmax : greatest ≤ maxUnsigned64) :
    greatest ≤ axisEnd greatest ∧
    (ExactTicks greatest ↔ greatest + greatest / 10 ≤ 16 * 10 ^ 18) ∧
    (16 * 10 ^ 18 < greatest + greatest / 10 →
      axisEnd greatest = maxUnsigned64 ∧
      ∀ tick, 0 < tick → tick ≤ tickCount →
        tickCount * tickValue (axisEnd greatest) tick < tick * axisEnd greatest ∧
        tickRow (axisEnd greatest) tick = plotBottom - 90 * tick + 1) := by
  refine ⟨le_axisEnd hmax, exactTicks_iff greatest, fun hbeyond => ?_⟩
  have hnone : ¬tickCount ∣ axisEnd greatest := by
    rw [tickCount_dvd_axisEnd_iff]
    omega
  rw [axisEnd_eq_of_not_dvd hnone]
  exact ⟨rfl, fun tick hpos hle => tick_of_maxUnsigned64 hpos hle⟩

/-- The last count whose axis has quarters, and the next one. -/
theorem ticks_exact_iff_boundary :
    14545454545454545455 ≤ maxUnsigned64 ∧ ExactTicks 14545454545454545455 ∧
      axisEnd 14545454545454545456 = maxUnsigned64 := by
  have hlast := ticks_exact_iff 14545454545454545455 (by decide)
  have hnext := ticks_exact_iff 14545454545454545456 (by decide)
  exact ⟨by decide, hlast.2.1.mpr (by decide), (hnext.2.2 (by decide)).1⟩

/-- The axis of the greatest count that is a multiple of four does not end there, but at a number
that has no quarters. Its last label is not the end of the axis, and the line does not stand at the
upper edge of the plot. -/
theorem ticks_of_greatest_multiple :
    let greatest := maxUnsigned64 - 3
    tickCount ∣ greatest ∧ axisEnd greatest = maxUnsigned64 ∧
      tickValue (axisEnd greatest) tickCount = maxUnsigned64 - 3 ∧
      tickRow (axisEnd greatest) tickCount = plotTop + 1 ∧
      ¬∀ greatest ≤ maxUnsigned64, tickCount ∣ axisEnd greatest := by
  intro greatest
  have hend : axisEnd greatest = maxUnsigned64 := axisEnd_of_lt (by decide)
  refine ⟨by decide, hend, ?_, ?_, fun hall => ?_⟩
  · rw [hend]
    decide
  · rw [hend]
    decide
  · have hquarters := hall greatest (by decide)
    rw [hend] at hquarters
    revert hquarters
    decide

end QuantumBlocks.Chart
