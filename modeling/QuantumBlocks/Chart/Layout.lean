import QuantumBlocks.Chart.Lettering
import QuantumBlocks.Histogram.Basic

/-!
# The layout of a chart

Where things stand in a chart: the plot with its margins, an axis of counts with five ticks, and
one bar for each label in a slot of its own. The axis ends at a round number somewhat above the
greatest count, so that there is room for a text over the tallest bar. Main statement: a count that
the axis reaches has a bar that is no higher than the plot, and a greater count never has a lower
bar.
-/

namespace QuantumBlocks.Chart

open Number

/-! ## The plot -/

/-- The column of the vertical axis. -/
def plotLeft : Nat := 70

/-- The first column to the right of the plot. -/
def plotRight : Nat := canvasWidth - 30

/-- The upper edge of the plot. -/
def plotTop : Nat := 70

/-- The row of the horizontal axis. -/
def plotBottom : Nat := canvasHeight - 70

/-- The width of the plot. -/
def plotWidth : Nat := plotRight - plotLeft

/-- The height of the plot. -/
def plotHeight : Nat := plotBottom - plotTop

/-! ## The axis of counts -/

/-- The number of parts that ticks divide the axis into. -/
def tickCount : Nat := 4

/-- What the axis has to reach: a tenth above the greatest count, and a unit for every part. -/
def axisTarget (greatest : Nat) : Nat :=
  max (min (greatest + greatest / 10) maxUnsigned64) tickCount

/-- The numbers at which an axis may end are the multiples of this one: the target keeps two
digits, in multiples of the number of parts. -/
def axisStep (target : Nat) : Nat := tickCount * Nat.pow 10 ((Nat.toDigits 10 target).length - 2)

/-- The number at the end of the axis, which is at most one of 64 bits. -/
def axisEnd (greatest : Nat) : Nat :=
  let target := axisTarget greatest
  let step := axisStep target
  min ((target + step - 1) / step * step) maxUnsigned64

/-- The number at a tick. -/
def tickValue (axis tick : Nat) : Nat := axis / tickCount * tick

/-- How many pixels a number is above the horizontal axis. -/
def heightOf (value axis : Nat) : Nat := value * plotHeight / axis

/-- A number that the axis reaches is within the plot. -/
theorem heightOf_le_plotHeight {value axis : Nat} (h : value ≤ axis) :
    heightOf value axis ≤ plotHeight := by
  rcases Nat.eq_zero_or_pos axis with rfl | hpos
  · simp [heightOf]
  · refine Nat.div_le_of_le_mul ?_
    exact Nat.mul_le_mul_right plotHeight h

/-- A greater number is never lower. -/
theorem heightOf_mono {a b : Nat} (h : a ≤ b) (axis : Nat) : heightOf a axis ≤ heightOf b axis :=
  Nat.div_le_div_right (Nat.mul_le_mul_right plotHeight h)

/-! ## Bars -/

/-- The width of the slot of a label if there are `count` labels. -/
def slotWidth (count : Nat) : Nat := plotWidth / count

/-- The width of the bar in a slot. -/
def barWidth (slot : Nat) : Nat := max (slot * 3 / 5) 1

/-- The middle of a slot. -/
def slotCenter (slot index : Nat) : Nat := plotLeft + slot * index + slot / 2

/-- A label with its bar: the slot it stands in, the middle of that slot, and the rectangle. -/
structure Bar where
  label : String
  count : Nat
  slot : Nat
  center : Nat
  rect : Rect
  deriving DecidableEq, Repr

/-- The bar of a label. -/
def barOf (axis slot index : Nat) (label : String) (count : Nat) : Bar :=
  let center := slotCenter slot index
  let width := barWidth slot
  let height := heightOf count axis
  ⟨label, count, slot, center, ⟨center - width / 2, plotBottom - height, width, height⟩⟩

/-- The bars of a histogram from left to right. -/
def bars (h : Histogram) : List Bar :=
  h.entries.zipIdx.map fun (entry, index) =>
    barOf (axisEnd h.maxCount) (slotWidth h.size) index entry.1 entry.2

/-- The upper edge of the text over a bar. -/
def Bar.valueTop (b : Bar) : Nat := b.rect.top - (2 * glyphHeight + 4)

/-- The upper edge of the text under the bars. -/
def labelTop : Nat := plotBottom + 10

end QuantumBlocks.Chart
