import QuantumBlocks.Proofs.Chart.Axis
import QuantumBlocks.Proofs.Chart.Bars
import QuantumBlocks.Proofs.Histogram.Greatest

/-!
# Room over the tallest bar

The axis of a chart ends above the greatest count, so that the text over the tallest bar begins
within the plot. There are three exceptions. Below ten, a tenth of the greatest count is nothing,
and four and eight are round numbers themselves: their bars are as high as the plot. And the axis
ends at the greatest number of 64 bits at the latest, so that the counts just below have no room
either.

* `heightOf_axisEnd_le_iff` — the greatest counts whose bars leave room
* `valueTop_headroom_iff` — the charts in which all texts over bars begin within the plot
-/

namespace QuantumBlocks.Chart

open Number

/-! ## The tallest bar -/

/-- A bar leaves 18 pixels of the plot free if it is no higher than 342. -/
theorem heightOf_le_iff {value axis : Nat} (h : 0 < axis) :
    heightOf value axis ≤ 342 ↔ 360 * value < 343 * axis := by
  have hheight : plotHeight = 360 := rfl
  rw [heightOf, hheight, ← Nat.lt_succ_iff, Nat.div_lt_iff_lt_mul h, Nat.mul_comm value]

theorem heightOf_axisEnd_of_lt_ten {greatest : Nat} (h : greatest < 10) :
    heightOf greatest (axisEnd greatest) ≤ 342 ↔ greatest ≠ 4 ∧ greatest ≠ 8 := by
  have hall : ∀ n < 10, heightOf n (axisEnd n) ≤ 342 ↔ n ≠ 4 ∧ n ≠ 8 := by decide
  exact hall greatest h

/-- **The greatest counts whose bars leave room** for a text are all but four, eight, and those
that are close to the greatest number of 64 bits. -/
theorem heightOf_axisEnd_le_iff (greatest : Nat) :
    heightOf greatest (axisEnd greatest) ≤ 342 ↔
      greatest ≠ 4 ∧ greatest ≠ 8 ∧ 360 * greatest < 343 * maxUnsigned64 := by
  have hmax : 10 ≤ maxUnsigned64 := by decide
  rcases Nat.lt_or_ge greatest 10 with hsmall | hten
  · rw [heightOf_axisEnd_of_lt_ten hsmall]
    omega
  · rw [heightOf_le_iff (axisEnd_pos greatest)]
    rcases Nat.lt_or_ge maxUnsigned64 (greatest + greatest / 10) with hbeyond | hfits
    · rw [axisEnd_of_lt hbeyond]
      omega
    · -- From ten on a tenth is enough; the worst case is nineteen, whose tenth is one.
      have htenth := add_tenth_le_axisEnd hfits
      omega

/-! ## Texts over bars -/

/-- The text over a bar begins within the plot, and ends above the bar. -/
def Bar.HasRoom (b : Bar) : Prop := plotTop ≤ b.valueTop ∧ b.valueTop + 18 = b.rect.top

theorem Bar.hasRoom_barOf_iff (axis slot index : Nat) (label : String) (count : Nat) :
    (barOf axis slot index label count).HasRoom ↔ heightOf count axis ≤ 342 := by
  simp only [HasRoom, valueTop, barOf, plotTop, plotBottom, canvasHeight, glyphHeight]
  omega

/-- **The charts in which all texts over bars begin within the plot**, with 18 pixels between the
upper edges of a bar and of its text, are those whose greatest count is neither four nor eight, nor
close to the greatest number of 64 bits. -/
theorem valueTop_headroom_iff (h : Histogram) :
    (∀ b ∈ bars h, plotTop ≤ b.valueTop ∧ b.valueTop + 18 = b.rect.top) ↔
      h.maxCount ≠ 4 ∧ h.maxCount ≠ 8 ∧ 360 * h.maxCount < 343 * maxUnsigned64 := by
  rw [← heightOf_axisEnd_le_iff]
  constructor
  · intro hall
    by_cases hne : h.entries = []
    · have hzero : h.maxCount = 0 := by simp [Histogram.maxCount, hne]
      rw [hzero]
      decide
    · obtain ⟨entry, hentry, hmax⟩ := Histogram.exists_eq_maxCount hne
      obtain ⟨index, hindex⟩ := List.mem_iff_getElem?.mp hentry
      have hroom := hall _ (mem_bars_iff.mpr ⟨index, entry, hindex, rfl⟩)
      have hheight := (Bar.hasRoom_barOf_iff _ _ _ _ _).mp hroom
      rwa [hmax] at hheight
  · intro hmax b hb
    obtain ⟨index, entry, hentry, rfl⟩ := mem_bars_iff.mp hb
    have hle := Histogram.le_maxCount (List.mem_of_getElem? hentry)
    exact (Bar.hasRoom_barOf_iff _ _ _ _ _).mpr (Nat.le_trans (heightOf_mono hle _) hmax)

/-- With four as the greatest count, the axis ends at four, and the text over the bar of that count
begins 18 pixels above the plot. -/
theorem valueTop_above_plot :
    axisEnd 4 = 4 ∧ (bars (.ofList [("0", 4)])).map Bar.valueTop = [plotTop - 18] ∧
      ¬∀ h : Histogram, h.entries ≠ [] → (∀ entry ∈ h.entries, entry.2 ≤ maxUnsigned64) →
        ∀ b ∈ bars h, plotTop ≤ b.valueTop := by
  refine ⟨by decide, by decide, fun hall => ?_⟩
  have hroom := hall (.ofList [("0", 4)]) (by decide) (by decide)
  revert hroom
  decide

end QuantumBlocks.Chart
