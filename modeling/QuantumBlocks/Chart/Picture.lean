import QuantumBlocks.Chart.Layout

/-!
# The picture of a histogram

A chart is drawn from the back to the front: the title, the ticks of the axis with their grid
lines, the bars with their texts, and the axes last, so that no bar covers them. Main statement:
there is a chart of every histogram that has a label.
-/

namespace QuantumBlocks.Chart

/-! ## Ticks -/

/-- The row of a tick. -/
def tickRow (axis tick : Nat) : Nat := plotBottom - heightOf (tickValue axis tick) axis

/-- The grid line of a tick, of which the horizontal axis has none. -/
def gridMarks (row tick : Nat) : Drawing :=
  if 0 < tick then [⟨⟨plotLeft + 1, row, plotWidth - 1, 1⟩, .grid⟩] else []

/-- A tick with its number to the left. -/
def tickMarks (axis tick : Nat) : Drawing :=
  let row := tickRow axis tick
  let label := toString (tickValue axis tick)
  gridMarks row tick ++ [⟨⟨plotLeft - 5, row, 5, 1⟩, .axis⟩]
    ++ textMarks label.toList (plotLeft - 8 - textWidth label 1) (row - glyphHeight / 2) 1

/-- All ticks from the bottom to the top. -/
def ticksMarks (axis : Nat) : Drawing := (List.range (tickCount + 1)).flatMap (tickMarks axis)

/-! ## Bars -/

/-- The four edges of a rectangle that is not empty. -/
def outlineMarks (r : Rect) : Drawing :=
  [⟨⟨r.left, r.top, r.width, 1⟩, .edge⟩, ⟨⟨r.left, r.top + r.height - 1, r.width, 1⟩, .edge⟩,
    ⟨⟨r.left, r.top, 1, r.height⟩, .edge⟩, ⟨⟨r.left + r.width - 1, r.top, 1, r.height⟩, .edge⟩]

/-- The rectangle of a bar with its edges, if it has a height at all. -/
def Bar.boxMarks (b : Bar) : Drawing :=
  if 0 < b.rect.height then ⟨b.rect, .bar⟩ :: outlineMarks b.rect else []

/-- The count over a bar. -/
def Bar.valueMarks (b : Bar) : Drawing :=
  let value := toString b.count
  centredMarks value b.center b.valueTop (fittingScale value b.slot)

/-- The label under a bar. -/
def Bar.labelMarks (b : Bar) : Drawing :=
  centredMarks b.label b.center labelTop (fittingScale b.label b.slot)

/-- A bar with its texts. -/
def Bar.marks (b : Bar) : Drawing := b.boxMarks ++ b.valueMarks ++ b.labelMarks

/-! ## The chart -/

/-- The title of every chart. -/
def title : String := "Quantum Measurement Results"

/-- The title at the upper edge. -/
def titleMarks : Drawing := centredMarks title (canvasWidth / 2) 20 3

/-- The lines of both axes. -/
def axisMarks : Drawing :=
  [⟨⟨plotLeft, plotTop, 1, plotHeight + 1⟩, .axis⟩, ⟨⟨plotLeft, plotBottom, plotWidth, 1⟩, .axis⟩]

/-- The names of both axes. -/
def captionMarks : Drawing :=
  centredMarks "Outcome" ((plotLeft + plotRight) / 2) (canvasHeight - 24) 2
    ++ textMarks "Count".toList 10 (plotTop - 24) 2

/-- The chart of a histogram. -/
def drawing (h : Histogram) : Drawing :=
  titleMarks ++ ticksMarks (axisEnd h.maxCount) ++ (bars h).flatMap Bar.marks ++ axisMarks
    ++ captionMarks

/-- Why there is no chart. -/
inductive ChartError where
  | empty
  deriving DecidableEq, Repr

/-- An error in words. -/
def ChartError.message : ChartError → String
  | .empty => "No data to plot"

/-- The chart of a histogram as a raster. -/
def render (h : Histogram) : Except ChartError Raster :=
  if h.isEmpty then .error .empty else .ok (.paint (drawing h))

/-- There is no chart of a histogram without labels, and of every other one there is. -/
theorem render_eq_error_iff (h : Histogram) : render h = .error .empty ↔ h.entries = [] := by
  unfold render Histogram.isEmpty
  cases h.entries <;> simp

end QuantumBlocks.Chart
