import QuantumBlocks.Chart.Picture
import QuantumBlocks.Proofs.Chart.Axis
import QuantumBlocks.Proofs.Chart.Columns
import QuantumBlocks.Proofs.Chart.Pixels
import QuantumBlocks.Proofs.Chart.Ticks
import QuantumBlocks.Proofs.Histogram.Greatest

/-!
# Charts drawn with words

A chart is drawn with words: coordinates and sizes have 32 bits, counts have 64, and the product
that scales a count to a height has 128. Here the drawing is said once more with every operation in
its words. It fails wherever the exact result of an operation is no such word, where a difference is
below zero or a divisor is zero, and at a pixel that is not on the canvas. Operations that are
capped, and differences that stop at zero, are said as such, and quotients by fixed numbers as they
are.

Drawn that way, a chart of less than `2 ^ 32 - 1` labels with counts of 64 bits never fails, and it
is the chart of `render`. The counter of the bars is a step ahead of them, so with more labels it is
no word in the end. Each function comes with what it gives, or with the drawing that it paints.

* `axisEnd?_eq_some`, `heightOf?_eq_some` — the axis and the heights
* `drawText?_eq_some`, `drawTick?_eq_some`, `drawBar?_eq_some` — the parts of a chart
* `renderInWords_eq_some`, `renderInWords_eq_none` — the whole chart, and when there is none
* `renderInWords_total` — what is known of every chart
-/

namespace QuantumBlocks.Chart

open Number Raster

/-! ## Lettering -/

/-- How far the next glyph is to the right. -/
def advance? (scale : Nat) : Option Nat := do
  mul? 32 (← add? 32 glyphWidth 1) scale

/-- The width of a text, of which the length is capped as well. -/
def textWidth? (text : String) (scale : Nat) : Option Nat := do
  return mulCapped 32 (min text.length maxUnsigned32) (← advance? scale) - scale

/-- The greater of two scales if the text then fits into `room` pixels. -/
def fittingScale? (text : String) (room : Nat) : Option Nat := do
  return if (← textWidth? text 2) ≤ room then 2 else 1

/-- Paints the square of a cell of a glyph. -/
def drawCell? (x y scale : Nat) (p : Raster) (cell : Cell) : Option Raster := do
  let left ← add? 32 x (← mul? 32 cell.column scale)
  let top ← add? 32 y (← mul? 32 cell.row scale)
  p.fill? ⟨⟨left, top, scale, scale⟩, .text⟩

/-- Paints a text glyph by glyph, as far as glyphs begin on the canvas. -/
def drawText? (y scale : Nat) : (p : Raster) → (x : Nat) → List Char → Option Raster
  | p, _, [] => some p
  | p, x, c :: rest => do
    let p ← (litCells c).foldlM (drawCell? x y scale) p
    let next := addCapped 32 x (← advance? scale)
    if canvasWidth ≤ next then return p else drawText? y scale p next rest

/-- Paints a text that is centred on a column. -/
def drawCentred? (p : Raster) (text : String) (center y scale : Nat) : Option Raster := do
  drawText? y scale p (center - (← textWidth? text scale) / 2) text.toList

section Lettering

variable {scale : Nat}

theorem advance?_of_lt (hscale : advance scale < 2 ^ 32) : advance? scale = some (advance scale) :=
  mul?_of_lt hscale

/-- The three scales that charts use are far from the end of a word. -/
theorem advance_le (hscale : scale ≤ 3) : advance scale ≤ 18 := Nat.mul_le_mul_left _ hscale

/-- A length that is capped leads to the same capped width. -/
theorem min_mul_min (length cell bound : Nat) :
    min (min length bound * cell) bound = min (length * cell) bound := by
  rcases Nat.le_total length bound with hle | hge
  · rw [Nat.min_eq_left hle]
  · rw [Nat.min_eq_right hge]
    rcases Nat.eq_zero_or_pos cell with rfl | hpos
    · rfl
    · have hbound : bound ≤ bound * cell := Nat.le_mul_of_pos_right _ hpos
      have hlength := Nat.mul_le_mul_right cell hge
      omega

theorem textWidth?_of_lt (text : String) (hscale : advance scale < 2 ^ 32) :
    textWidth? text scale = some (textWidth text scale) := by
  rw [textWidth?, advance?_of_lt hscale]
  exact congrArg (fun width => some (width - scale)) (min_mul_min _ _ _)

theorem textWidth?_eq_some (text : String) (hscale : scale ≤ 3) :
    textWidth? text scale = some (textWidth text scale) :=
  textWidth?_of_lt text (Nat.lt_of_le_of_lt (advance_le hscale) (by decide))

theorem fittingScale?_eq_some (text : String) (room : Nat) :
    fittingScale? text room = some (fittingScale text room) := by
  rw [fittingScale?, textWidth?_eq_some text (by decide)]
  rfl

theorem fittingScale_le (text : String) (room : Nat) : fittingScale text room ≤ 3 := by
  unfold fittingScale
  split <;> decide

variable {x y : Nat}

theorem drawCell?_of_lt (hx : x + advance scale < 2 ^ 32) (hy : y + glyphHeight * scale < 2 ^ 32)
    (p : Raster) {c : Char} {cell : Cell} (hcell : cell ∈ litCells c) :
    drawCell? x y scale p cell = some (p.paintOver [cellMark x y scale cell]) := by
  obtain ⟨hcolumn, hrow⟩ := cell_lt_of_mem_litCells hcell
  have hright : cell.column * scale ≤ advance scale := Nat.mul_le_mul_right _ (by omega)
  have hdown : cell.row * scale ≤ glyphHeight * scale := Nat.mul_le_mul_right _ (by omega)
  simp (disch := omega) only [drawCell?, mul?_of_lt, add?_of_lt, Option.bind_eq_bind,
    Option.bind_some, fill?_eq_some, cellMark, paintOver_cons, paintOver_nil]

/-- **A text is painted** wherever its first glyph has a place in words, of whatever length it
is. -/
theorem drawText?_of_lt (hy : y + glyphHeight * scale < 2 ^ 32) (cs : List Char)
    (hx : x + advance scale < 2 ^ 32) (p : Raster) :
    drawText? y scale p x cs = some (p.paintOver (textMarks cs x y scale)) := by
  induction cs generalizing x p with
  | nil => rfl
  | cons c rest ih =>
    have hcells : (litCells c).foldlM (drawCell? x y scale) p
        = some (p.paintOver (letterMarks c x y scale)) := by
      rw [letterMarks, List.map_eq_flatMap]
      refine foldlM_paintOver (fun p cell hcell => ?_) p
      exact drawCell?_of_lt hx hy p hcell
    have hnext : addCapped 32 x (advance scale) = x + advance scale :=
      Nat.min_eq_left (Nat.le_sub_one_of_lt hx)
    simp only [drawText?, hcells, advance?_of_lt (show advance scale < 2 ^ 32 by omega),
      Option.bind_eq_bind, Option.bind_some, hnext, textMarks, paintOver_append]
    split
    · rfl
    · next hcanvas =>
      -- A glyph that begins on the canvas has room, since the advance is less than the canvas.
      have hwidth : canvasWidth = 800 := rfl
      exact ih (by omega) _

/-- A text in one of the scales of charts is painted wherever it begins on the canvas. -/
theorem drawText?_eq_some (hy : y ≤ canvasHeight) (hscale : scale ≤ 3) (cs : List Char)
    (hx : x ≤ canvasWidth) (p : Raster) :
    drawText? y scale p x cs = some (p.paintOver (textMarks cs x y scale)) := by
  have hadvance := advance_le hscale
  have hheight : glyphHeight * scale ≤ 21 := Nat.mul_le_mul_left _ hscale
  simp only [canvasWidth, canvasHeight] at hx hy
  exact drawText?_of_lt (by omega) cs (by omega) p

theorem drawCentred?_eq_some (p : Raster) (text : String) {center : Nat}
    (hcenter : center ≤ canvasWidth) (hy : y ≤ canvasHeight) (hscale : scale ≤ 3) :
    drawCentred? p text center y scale
      = some (p.paintOver (centredMarks text center y scale)) := by
  rw [drawCentred?, textWidth?_eq_some text hscale]
  exact drawText?_eq_some hy hscale _ (by omega) p

end Lettering

/-! ## The axis of counts -/

/-- The edges of the plot that are given by those of the canvas, and its height. -/
structure Plot where
  right : Nat
  bottom : Nat
  height : Nat

/-- The plot that the margins leave of the canvas. -/
def plot? : Option Plot := do
  let bottom ← sub? canvasHeight 70
  return ⟨← sub? canvasWidth 30, bottom, ← sub? bottom plotTop⟩

/-- The plot of every chart. -/
def plot : Plot := ⟨plotRight, plotBottom, plotHeight⟩

theorem plot_bottom : plot.bottom = plotBottom := rfl

theorem plot_height : plot.height = plotHeight := rfl

theorem plot?_eq_some : plot? = some plot := rfl

/-- The number at the end of the axis. -/
def axisEnd? (greatest : Nat) : Option Nat := do
  let target := max (addCapped 64 greatest (greatest / 10)) tickCount
  let magnitude ← pow? 64 10 ((← log10? target) - 1)
  let step ← mul? 64 tickCount magnitude
  return mulCapped 64 (← divUp? 64 target step) step

/-- How many pixels a number is above the horizontal axis. The quotient of a product of 128 bits
has to be a size. -/
def heightOf? (height value axis : Nat) : Option Nat :=
  if axis = 0 then some 0 else do
    word? 32 (← div? (← mul? 128 value height) axis)

/-- **The end of the axis** is found for every greatest count. -/
theorem axisEnd?_eq_some (greatest : Nat) : axisEnd? greatest = some (axisEnd greatest) := by
  have htarget : max (addCapped 64 greatest (greatest / 10)) tickCount = axisTarget greatest := rfl
  have hword : axisTarget greatest < 2 ^ 64 :=
    Nat.lt_of_le_of_lt (axisTarget_le_maxUnsigned64 greatest) (by decide)
  have hone : 1 < axisStep (axisTarget greatest) :=
    Nat.lt_of_lt_of_le (by decide) (Nat.le_mul_of_pos_right tickCount (Nat.pow_pos (by decide)))
  -- The greatest step is that of a number of twenty digits.
  have hmost : axisStep (axisTarget greatest) < 2 ^ 64 :=
    Nat.lt_of_le_of_lt (axisStep_le_of_lt (by decide) (Nat.lt_trans hword (by decide)))
      (by decide : tickCount * 10 ^ (20 - 2) < 2 ^ 64)
  have hpower : 10 ^ ((Nat.toDigits 10 (axisTarget greatest)).length - 2) < 2 ^ 64 :=
    Nat.lt_of_le_of_lt (Nat.le_mul_of_pos_left _ (by decide)) hmost
  have hstep : mul? 64 tickCount (10 ^ ((Nat.toDigits 10 (axisTarget greatest)).length - 2))
      = some (axisStep (axisTarget greatest)) := mul?_of_lt hmost
  rw [axisEnd?, htarget, log10?_of_pos (axisTarget_pos greatest)]
  simp only [Option.bind_eq_bind, Option.bind_some, Nat.sub_sub]
  rw [pow?_of_lt hpower, Option.bind_some, hstep, Option.bind_some, divUp?_of_lt hone hword]
  rfl

theorem heightOf?_eq_some {value axis : Nat} (hvalue : value ≤ axis)
    (haxis : axis ≤ maxUnsigned64) :
    heightOf? plotHeight value axis = some (heightOf value axis) := by
  rcases Nat.eq_zero_or_pos axis with rfl | hpos
  · simp [heightOf?, heightOf]
  · have hheight := heightOf_le_plotHeight hvalue
    have hproduct : value * plotHeight ≤ maxUnsigned64 * plotHeight :=
      Nat.mul_le_mul_right _ (Nat.le_trans hvalue haxis)
    rw [heightOf?, if_neg (by omega), mul?_of_lt (Nat.lt_of_le_of_lt hproduct (by decide)),
      Option.bind_eq_bind, Option.bind_some, div?_of_pos hpos]
    exact word?_of_lt (Nat.lt_of_le_of_lt hheight (by decide))

/-- A number far beyond the end of the axis has no height. -/
example : heightOf? plotHeight maxUnsigned64 1 = none := by decide

/-! ## Ticks -/

/-- The grid line of a tick, of which the horizontal axis has none. -/
def drawGrid? (plot : Plot) (row tick : Nat) (p : Raster) : Option Raster :=
  if 0 < tick then do
    let left ← add? 32 plotLeft 1
    let width ← sub? (← sub? plot.right plotLeft) 1
    p.fill? ⟨⟨left, row, width, 1⟩, .grid⟩
  else some p

/-- A tick with its number to the left. -/
def drawTick? (plot : Plot) (axis : Nat) (p : Raster) (tick : Nat) : Option Raster := do
  let value ← mul? 64 (axis / tickCount) tick
  let row ← sub? plot.bottom (← heightOf? plot.height value axis)
  let p ← drawGrid? plot row tick p
  let p ← p.fill? ⟨⟨← sub? plotLeft 5, row, 5, 1⟩, .axis⟩
  let label := toString value
  let left := (← sub? plotLeft 8) - (← textWidth? label 1)
  drawText? (row - glyphHeight / 2) 1 p left label.toList

theorem drawGrid?_eq_some (row tick : Nat) (p : Raster) :
    drawGrid? plot row tick p = some (p.paintOver (gridMarks row tick)) := by
  have hleft : add? 32 plotLeft 1 = some (plotLeft + 1) := rfl
  have hwidth : sub? plot.right plotLeft = some plotWidth := rfl
  have hline : sub? plotWidth 1 = some (plotWidth - 1) := rfl
  unfold drawGrid? gridMarks
  split
  · simp only [hleft, hwidth, hline, Option.bind_eq_bind, Option.bind_some, fill?_eq_some,
      paintOver_cons, paintOver_nil]
  · rfl

theorem drawTick?_eq_some {axis tick : Nat} (haxis : axis ≤ maxUnsigned64)
    (htick : tick ≤ tickCount) (p : Raster) :
    drawTick? plot axis p tick = some (p.paintOver (tickMarks axis tick)) := by
  have hvalue : tickValue axis tick ≤ axis :=
    Nat.le_trans (Nat.mul_le_mul_left _ htick) (Nat.div_mul_le_self axis tickCount)
  have hproduct : mul? 64 (axis / tickCount) tick = some (tickValue axis tick) :=
    mul?_of_lt (Nat.lt_of_le_of_lt hvalue (Nat.lt_of_le_of_lt haxis (by decide)))
  have hheight : heightOf (tickValue axis tick) axis ≤ plotBottom :=
    Nat.le_trans (heightOf_le_plotHeight hvalue) (by decide)
  have hrow : sub? plotBottom (heightOf (tickValue axis tick) axis) = some (tickRow axis tick) :=
    sub?_of_le hheight
  have hlow : tickRow axis tick ≤ canvasHeight :=
    Nat.le_trans (Nat.sub_le plotBottom _) (by decide)
  have hnotch : sub? plotLeft 5 = some (plotLeft - 5) := rfl
  have hlabel : sub? plotLeft 8 = some (plotLeft - 8) := rfl
  have hleft : plotLeft - 8 ≤ canvasWidth := by decide
  simp only [drawTick?, hproduct, plot_height, plot_bottom, heightOf?_eq_some hvalue haxis, hrow,
    drawGrid?_eq_some, fill?_eq_some, hnotch, hlabel, textWidth?_eq_some _ (show 1 ≤ 3 by decide),
    Option.bind_eq_bind, Option.bind_some]
  rw [drawText?_eq_some (by omega) (by decide) _ (by omega), tickMarks]
  simp only [paintOver_append, paintOver_cons, paintOver_nil]

/-! ## Bars -/

/-- The four edges of a rectangle. -/
def drawOutline? (p : Raster) (r : Rect) : Option Raster := do
  let p ← p.fill? ⟨⟨r.left, r.top, r.width, 1⟩, .edge⟩
  let last ← sub? (← add? 32 r.top r.height) 1
  let p ← p.fill? ⟨⟨r.left, last, r.width, 1⟩, .edge⟩
  let p ← p.fill? ⟨⟨r.left, r.top, 1, r.height⟩, .edge⟩
  let last ← sub? (← add? 32 r.left r.width) 1
  p.fill? ⟨⟨last, r.top, 1, r.height⟩, .edge⟩

/-- The rectangle of a bar with its edges, if it has a height at all. -/
def drawBox? (plot : Plot) (left width height : Nat) (p : Raster) : Option Raster :=
  if 0 < height then do
    let box : Rect := ⟨left, ← sub? plot.bottom height, width, height⟩
    drawOutline? (← p.fill? ⟨box, .bar⟩) box
  else some p

/-- The width of the bar in a slot. -/
def barWidth? (slot : Nat) : Option Nat := do
  return max ((← mul? 32 slot 3) / 5) 1

/-- The middle of a slot. -/
def slotCenter? (slot index : Nat) : Option Nat := do
  add? 32 (← add? 32 plotLeft (← mul? 32 slot index)) (slot / 2)

/-- The upper edge of the text over a bar. -/
def valueTop? (plot : Plot) (height : Nat) : Option Nat := do
  return (← sub? plot.bottom height) - (← add? 32 (← mul? 32 glyphHeight 2) 4)

/-- A bar with its texts. -/
def drawBar? (plot : Plot) (axis slot width index : Nat) (label : String) (count : Nat)
    (p : Raster) : Option Raster := do
  let center ← slotCenter? slot index
  let height ← heightOf? plot.height count axis
  let p ← drawBox? plot (← sub? center (width / 2)) width height p
  let value := toString count
  let p ← drawCentred? p value center (← valueTop? plot height) (← fittingScale? value slot)
  drawCentred? p label center (← add? 32 plot.bottom 10) (← fittingScale? label slot)

/-- Bars from left to right. Their counter is a step ahead: it is counted up to the next bar before
it is known whether there is one. -/
def drawBars? (plot : Plot) (axis slot width : Nat) :
    (index : Nat) → List (String × Nat) → Raster → Option Raster
  | index, [], p => do
    let _ ← add? 32 index 1
    return p
  | index, (label, count) :: rest, p => do
    let next ← add? 32 index 1
    let p ← drawBar? plot axis slot width index label count p
    drawBars? plot axis slot width next rest p

theorem drawOutline?_eq_some {r : Rect} (hwidth : 0 < r.width) (hheight : 0 < r.height)
    (hright : r.left + r.width < 2 ^ 32) (hbottom : r.top + r.height < 2 ^ 32) (p : Raster) :
    drawOutline? p r = some (p.paintOver (outlineMarks r)) := by
  simp only [drawOutline?, fill?_eq_some, add?_of_lt hright, add?_of_lt hbottom,
    sub?_of_le (show 1 ≤ r.top + r.height by omega),
    sub?_of_le (show 1 ≤ r.left + r.width by omega), Option.bind_eq_bind, Option.bind_some,
    outlineMarks, paintOver_cons, paintOver_nil]

theorem barWidth?_eq_some {slot : Nat} (hslot : slot ≤ plotWidth) :
    barWidth? slot = some (barWidth slot) := by
  have hwidth : plotWidth = 700 := rfl
  rw [barWidth?, mul?_of_lt (by omega)]
  rfl

theorem drawBox?_eq_some {left width height : Nat} (hleft : left ≤ canvasWidth)
    (hwidth : 0 < width) (hmost : width ≤ canvasWidth) (hheight : height ≤ plotHeight)
    (p : Raster) :
    drawBox? plot left width height p = some (p.paintOver
      (if 0 < height then
        ⟨⟨left, plotBottom - height, width, height⟩, .bar⟩
          :: outlineMarks ⟨left, plotBottom - height, width, height⟩
      else [])) := by
  have htop : sub? plot.bottom height = some (plotBottom - height) :=
    sub?_of_le (Nat.le_trans hheight (by decide))
  have hcanvas : canvasWidth = 800 := rfl
  have hplot : plotBottom + plotHeight = 790 := rfl
  unfold drawBox?
  split
  next hpos =>
    simp only [htop, fill?_eq_some, Option.bind_eq_bind, Option.bind_some]
    exact drawOutline?_eq_some hwidth hpos (by simp only; omega) (by simp only; omega) _
  next => rfl

section Slot

variable {slot index : Nat}

theorem slotCenter_le (hslot : slot * (index + 1) ≤ plotWidth) :
    slotCenter slot index ≤ plotRight := by
  have hright : plotLeft + plotWidth = plotRight := rfl
  rw [Nat.mul_succ] at hslot
  rw [slotCenter]
  omega

theorem slotCenter?_eq_some (hslot : slot * (index + 1) ≤ plotWidth) :
    slotCenter? slot index = some (slotCenter slot index) := by
  have hwidth : plotWidth = 700 := rfl
  have hplot : plotLeft = 70 := rfl
  rw [Nat.mul_succ] at hslot
  rw [slotCenter?, mul?_of_lt (by omega), Option.bind_eq_bind, Option.bind_some,
    add?_of_lt (by omega), Option.bind_some, add?_of_lt (by omega), slotCenter]

theorem barWidth_le (hslot : slot * (index + 1) ≤ plotWidth) : barWidth slot ≤ canvasWidth := by
  simp only [Nat.mul_succ, barWidth, plotWidth, plotRight, canvasWidth] at hslot ⊢
  omega

theorem half_barWidth_le : barWidth slot / 2 ≤ slotCenter slot index := by
  simp only [barWidth, slotCenter, plotLeft]
  omega

theorem valueTop?_eq_some {height : Nat} (hheight : height ≤ plotHeight) :
    valueTop? plot height = some (plotBottom - height - (2 * glyphHeight + 4)) := by
  have hplot : plotHeight ≤ plotBottom := by decide
  rw [valueTop?, plot_bottom, sub?_of_le (Nat.le_trans hheight hplot)]
  rfl

/-- **A bar is painted** with its texts if its slot lies within the plot and the axis reaches its
count. -/
theorem drawBar?_eq_some {axis count : Nat} (haxis : axis ≤ maxUnsigned64) (hcount : count ≤ axis)
    (hslot : slot * (index + 1) ≤ plotWidth) (label : String) (p : Raster) :
    drawBar? plot axis slot (barWidth slot) index label count p
      = some (p.paintOver (barOf axis slot index label count).marks) := by
  have hheight := heightOf_le_plotHeight hcount
  have hcenter : slotCenter slot index ≤ canvasWidth :=
    Nat.le_trans (slotCenter_le hslot) (by decide)
  have hleft : sub? (slotCenter slot index) (barWidth slot / 2)
      = some (slotCenter slot index - barWidth slot / 2) := sub?_of_le half_barWidth_le
  have hwidth : 0 < barWidth slot := Nat.lt_of_lt_of_le Nat.one_pos (Nat.le_max_right _ _)
  have hmost : barWidth slot ≤ canvasWidth := barWidth_le hslot
  have hbottom : plotBottom ≤ canvasHeight := by decide
  have htop : plotBottom - heightOf count axis - (2 * glyphHeight + 4) ≤ canvasHeight := by omega
  have hbelow : labelTop ≤ canvasHeight := by decide
  have hlabel : add? 32 plotBottom 10 = some labelTop := rfl
  simp only [drawBar?, slotCenter?_eq_some hslot, plot_height, heightOf?_eq_some hcount haxis,
    hleft, drawBox?_eq_some (Nat.le_trans (Nat.sub_le _ _) hcenter) hwidth hmost hheight,
    valueTop?_eq_some hheight, fittingScale?_eq_some, plot_bottom, hlabel,
    drawCentred?_eq_some _ _ hcenter htop (fittingScale_le _ _),
    drawCentred?_eq_some _ _ hcenter hbelow (fittingScale_le _ _), Option.bind_eq_bind,
    Option.bind_some, Bar.marks, paintOver_append]
  rfl

end Slot

/-- **The bars are painted** one after the other, if there is a number for one bar more. -/
theorem drawBars?_eq_some {axis slot index : Nat} (haxis : axis ≤ maxUnsigned64)
    {entries : List (String × Nat)} (hcounts : ∀ entry ∈ entries, entry.2 ≤ axis)
    (hslot : slot * (index + entries.length) ≤ plotWidth)
    (hindex : index + entries.length + 1 < 2 ^ 32) (p : Raster) :
    drawBars? plot axis slot (barWidth slot) index entries p
      = some (p.paintOver ((entries.zipIdx index).flatMap fun (entry, index) =>
          (barOf axis slot index entry.1 entry.2).marks)) := by
  induction entries generalizing index p with
  | nil =>
    rw [List.length_nil, Nat.add_zero] at hindex
    rw [drawBars?, add?_of_lt hindex]
    rfl
  | cons entry rest ih =>
    obtain ⟨label, count⟩ := entry
    rw [List.length_cons] at hslot hindex
    have hfirst : slot * (index + 1) ≤ plotWidth :=
      Nat.le_trans (Nat.mul_le_mul_left slot (by omega)) hslot
    have hrest : ∀ entry ∈ rest, entry.2 ≤ axis :=
      fun entry hentry => hcounts entry (List.mem_cons_of_mem _ hentry)
    simp only [drawBars?, drawBar?_eq_some haxis (hcounts _ List.mem_cons_self) hfirst,
      add?_of_lt (show index + 1 < 2 ^ 32 by omega), Option.bind_eq_bind, Option.bind_some]
    rw [ih hrest (by rwa [Nat.add_right_comm, Nat.add_assoc]) (by omega), List.zipIdx_cons,
      List.flatMap_cons, paintOver_append]

/-- Without a number for one bar more, the counter ends the drawing. -/
theorem drawBars?_eq_none {axis slot width index : Nat} {entries : List (String × Nat)}
    (hindex : 2 ^ 32 ≤ index + entries.length + 1) (p : Raster) :
    drawBars? plot axis slot width index entries p = none := by
  induction entries generalizing index p with
  | nil =>
    rw [List.length_nil, Nat.add_zero] at hindex
    rw [drawBars?, add?_of_le hindex]
    rfl
  | cons entry rest ih =>
    obtain ⟨label, count⟩ := entry
    rw [List.length_cons] at hindex
    rw [drawBars?]
    rcases Nat.lt_or_ge (index + 1) (2 ^ 32) with hlt | hge
    · rw [add?_of_lt hlt, Option.bind_eq_bind, Option.bind_some]
      cases drawBar? plot axis slot width index label count p with
      | none => rfl
      | some q => exact ih (by omega) q
    · rw [add?_of_le hge]
      rfl

/-! ## The chart -/

/-- The lines of both axes. -/
def drawAxes? (plot : Plot) (p : Raster) : Option Raster := do
  let p ← p.fill? ⟨⟨plotLeft, plotTop, 1, ← add? 32 plot.height 1⟩, .axis⟩
  p.fill? ⟨⟨plotLeft, plot.bottom, ← sub? plot.right plotLeft, 1⟩, .axis⟩

/-- Everything in the plot of a chart: the ticks, the bars and the axes. -/
def drawPlot? (plot : Plot) (h : Histogram) (p : Raster) : Option Raster := do
  let axis ← axisEnd? h.maxCount
  let p ← (List.range (tickCount + 1)).foldlM (drawTick? plot axis) p
  let slot ← div? (← sub? plot.right plotLeft) (min h.size maxUnsigned32)
  let p ← drawBars? plot axis slot (← barWidth? slot) 0 h.entries p
  drawAxes? plot p

/-- The names of both axes. -/
def drawCaptions? (plot : Plot) (across up : String) (p : Raster) : Option Raster := do
  let center := (← add? 32 plotLeft plot.right) / 2
  let p ← drawCentred? p across center (← sub? canvasHeight 24) 2
  drawText? (← sub? plotTop 24) 2 p 10 up.toList

/-- The chart of a histogram, drawn with words. -/
def renderInWords (h : Histogram) : Option (Except ChartError Raster) :=
  if h.isEmpty then some (.error .empty) else do
    let plot ← plot?
    let p ← drawCentred? .blank title (canvasWidth / 2) 20 3
    let p ← drawPlot? plot h p
    return .ok (← drawCaptions? plot "Outcome" "Count" p)

theorem drawAxes?_eq_some (p : Raster) : drawAxes? plot p = some (p.paintOver axisMarks) := by
  have hlength : add? 32 plot.height 1 = some (plotHeight + 1) := rfl
  have hwidth : sub? plot.right plotLeft = some plotWidth := rfl
  have hbottom : plot.bottom = plotBottom := rfl
  simp only [drawAxes?, hlength, hwidth, hbottom, fill?_eq_some, Option.bind_eq_bind,
    Option.bind_some, axisMarks, paintOver_cons, paintOver_nil]

theorem drawCaptions?_eq_some (across up : String) (p : Raster) :
    drawCaptions? plot across up p = some (p.paintOver
      (centredMarks across ((plotLeft + plotRight) / 2) (canvasHeight - 24) 2
        ++ textMarks up.toList 10 (plotTop - 24) 2)) := by
  have hsum : add? 32 plotLeft plot.right = some (plotLeft + plotRight) := rfl
  have hlow : sub? canvasHeight 24 = some (canvasHeight - 24) := rfl
  have hhigh : sub? plotTop 24 = some (plotTop - 24) := rfl
  simp only [drawCaptions?, hsum, hlow, hhigh, Option.bind_eq_bind, Option.bind_some]
  rw [drawCentred?_eq_some _ _ (by decide) (by decide) (by decide), Option.bind_some,
    drawText?_eq_some (by decide) (by decide) _ (by decide), paintOver_append]

/-- No count is beyond the axis. -/
theorem le_axisEnd_of_mem {h : Histogram}
    (hcounts : ∀ entry ∈ h.entries, entry.2 ≤ maxUnsigned64) {entry : String × Nat}
    (hentry : entry ∈ h.entries) : entry.2 ≤ axisEnd h.maxCount :=
  Nat.le_trans (Histogram.le_maxCount hentry) (le_axisEnd (Histogram.maxCount_le hcounts))

theorem drawPlot?_eq_some {h : Histogram} (hpos : 0 < h.size) (hsize : h.size < maxUnsigned32)
    (hcounts : ∀ entry ∈ h.entries, entry.2 ≤ maxUnsigned64) (p : Raster) :
    drawPlot? plot h p = some (p.paintOver
      (ticksMarks (axisEnd h.maxCount) ++ (bars h).flatMap Bar.marks ++ axisMarks)) := by
  have haxis : axisEnd h.maxCount ≤ maxUnsigned64 := Nat.min_le_right _ _
  have hticks : ∀ p, ∀ tick ∈ List.range (tickCount + 1),
      drawTick? plot (axisEnd h.maxCount) p tick
        = some (p.paintOver (tickMarks (axisEnd h.maxCount) tick)) :=
    fun p tick htick => drawTick?_eq_some haxis (Nat.le_of_lt_succ (List.mem_range.mp htick)) p
  have hwidth : sub? plot.right plotLeft = some plotWidth := rfl
  have hslot : div? plotWidth h.size = some (slotWidth h.size) := div?_of_pos hpos
  have hbar : barWidth? (slotWidth h.size) = some (barWidth (slotWidth h.size)) :=
    barWidth?_eq_some (Nat.div_le_self plotWidth h.size)
  -- The slots of all labels together are no wider than the plot.
  have hslots : slotWidth h.size * (0 + h.size) ≤ plotWidth := by
    rw [Nat.zero_add]
    exact Nat.div_mul_le_self _ _
  have hcounter : 0 + h.size + 1 < 2 ^ 32 := by
    rw [Nat.zero_add]
    exact Nat.lt_of_le_of_lt hsize (by decide)
  have hbars := drawBars?_eq_some haxis (fun entry => le_axisEnd_of_mem hcounts) hslots hcounter
  have hmarks : (bars h).flatMap Bar.marks = h.entries.zipIdx.flatMap fun (entry, index) =>
      (barOf (axisEnd h.maxCount) (slotWidth h.size) index entry.1 entry.2).marks := by
    rw [bars, List.flatMap_map]
  simp only [drawPlot?, axisEnd?_eq_some, foldlM_paintOver hticks, hwidth,
    Nat.min_eq_left (Nat.le_of_lt hsize), hslot, hbar, hbars, drawAxes?_eq_some, Option.bind_eq_bind,
    Option.bind_some, ticksMarks, hmarks, paintOver_append]

/-- Nothing is painted of so many labels that there is no number for one more. -/
theorem drawPlot?_eq_none {h : Histogram} (hsize : maxUnsigned32 ≤ h.size) (p : Raster) :
    drawPlot? plot h p = none := by
  have hcounter : 2 ^ 32 ≤ 0 + h.size + 1 := by
    rw [Nat.zero_add]
    exact Nat.le_trans (by decide : 2 ^ 32 ≤ maxUnsigned32 + 1) (Nat.succ_le_succ hsize)
  have hbars : ∀ axis slot width p, drawBars? plot axis slot width 0 h.entries p = none :=
    fun _ _ _ p => drawBars?_eq_none hcounter p
  simp only [drawPlot?, hbars, Option.bind_eq_bind, Option.bind_none, Option.bind_fun_none]

/-- **Nothing fails when a chart is drawn with words**, and the chart is the same. -/
theorem renderInWords_eq_some {h : Histogram} (hsize : h.size < maxUnsigned32)
    (hcounts : ∀ entry ∈ h.entries, entry.2 ≤ maxUnsigned64) :
    renderInWords h = some (render h) := by
  unfold renderInWords render
  split
  · rfl
  next hne =>
    have hpos : 0 < h.size :=
      List.length_pos_iff.mpr fun hnil => hne (List.isEmpty_iff.mpr hnil)
    have hdrawing : drawing h = titleMarks ++ (ticksMarks (axisEnd h.maxCount)
        ++ (bars h).flatMap Bar.marks ++ axisMarks) ++ captionMarks := by
      simp only [drawing, List.append_assoc]
    have hpaint : paint (drawing h) = ((blank.paintOver titleMarks).paintOver
        (ticksMarks (axisEnd h.maxCount) ++ (bars h).flatMap Bar.marks ++ axisMarks)).paintOver
          captionMarks := by
      rw [paint, ← paintOver, hdrawing, paintOver_append, paintOver_append]
    rw [plot?_eq_some, Option.bind_eq_bind, Option.bind_some,
      drawCentred?_eq_some _ _ (by decide) (by decide) (by decide), Option.bind_eq_bind,
      Option.bind_some, drawPlot?_eq_some hpos hsize hcounts, Option.bind_some,
      drawCaptions?_eq_some, Option.bind_some, hpaint, titleMarks, captionMarks, Option.pure_def]

/-- With so many labels that there is no number for one more, the counter of the bars ends the
whole chart. -/
theorem renderInWords_eq_none {h : Histogram} (hsize : maxUnsigned32 ≤ h.size) :
    renderInWords h = none := by
  have hpos : 0 < h.size := Nat.lt_of_lt_of_le (by decide) hsize
  have hne : ¬h.isEmpty = true :=
    fun hempty => List.ne_nil_of_length_pos hpos (List.isEmpty_iff.mp hempty)
  rw [renderInWords, if_neg hne, plot?_eq_some, Option.bind_eq_bind, Option.bind_some,
    drawCentred?_eq_some _ _ (by decide) (by decide) (by decide), Option.bind_eq_bind,
    Option.bind_some, drawPlot?_eq_none hsize, Option.bind_none]

/-- **A chart stays within its words and its canvas.** Drawn with words, the chart of a histogram
of less than `2 ^ 32 - 1` labels with counts of 64 bits fails in no operation and at no pixel, and
it is the chart of the histogram. There is none only if there are no labels. No bar is higher than
the plot, and a greater count never has a lower bar. -/
theorem renderInWords_total (h : Histogram) (hsize : h.size < maxUnsigned32)
    (hcounts : ∀ entry ∈ h.entries, entry.2 ≤ maxUnsigned64) :
    renderInWords h = some (render h) ∧
    (renderInWords h = some (.error .empty) ↔ h.entries = []) ∧
    (∀ b ∈ bars h, b.rect.height ≤ plotHeight) ∧
    ∀ b ∈ bars h, ∀ c ∈ bars h, b.count ≤ c.count → b.rect.height ≤ c.rect.height := by
  have hdrawn := renderInWords_eq_some hsize hcounts
  refine ⟨hdrawn, ?_, fun b hb => ?_, fun b hb c hc hle => ?_⟩
  · rw [hdrawn, Option.some_inj, render_eq_error_iff]
  · obtain ⟨index, entry, hentry, rfl⟩ := mem_bars_iff.mp hb
    exact heightOf_le_plotHeight (le_axisEnd_of_mem hcounts (List.mem_of_getElem? hentry))
  · obtain ⟨_, entry, -, rfl⟩ := mem_bars_iff.mp hb
    obtain ⟨_, other, -, rfl⟩ := mem_bars_iff.mp hc
    exact heightOf_mono hle _

/-- The greatest count of 64 bits beside one. -/
theorem renderInWords_total_greatest :
    let h := Histogram.ofList [("0", maxUnsigned64), ("1", 1)]
    h.size < maxUnsigned32 ∧ (∀ entry ∈ h.entries, entry.2 ≤ maxUnsigned64) ∧
      renderInWords h = some (render h) ∧ (bars h).map (fun b => b.rect.height) = [360, 0] := by
  intro h
  have hsize : h.size < maxUnsigned32 := by decide
  have hcounts : ∀ entry ∈ h.entries, entry.2 ≤ maxUnsigned64 := by decide
  exact ⟨hsize, hcounts, (renderInWords_total h hsize hcounts).1, by decide⟩

/-- There are fewer than `2 ^ 32` labels and none was ever counted, but the counter of the bars has
no number after the last one. -/
theorem renderInWords_counter_exhausted :
    let h := numbered maxUnsigned32 fun _ => 0
    h.size < 2 ^ 32 ∧ h.entries ≠ [] ∧ (∀ entry ∈ h.entries, entry.2 ≤ maxUnsigned64) ∧
      renderInWords h = none ∧
      ¬∀ h : Histogram, h.size < 2 ^ 32 → (∀ entry ∈ h.entries, entry.2 ≤ maxUnsigned64) →
        renderInWords h = some (render h) := by
  intro h
  have hsize : h.size = maxUnsigned32 := size_numbered maxUnsigned32 _
  have hword : h.size < 2 ^ 32 := Nat.lt_of_le_of_lt (Nat.le_of_eq hsize) (by decide)
  have hpos : 0 < h.size := Nat.lt_of_lt_of_le (by decide) (Nat.le_of_eq hsize.symm)
  have hcounts : ∀ entry ∈ h.entries, entry.2 ≤ maxUnsigned64 :=
    le_of_mem_numbered fun _ => Nat.zero_le _
  have hnone : renderInWords h = none := renderInWords_eq_none (Nat.le_of_eq hsize.symm)
  refine ⟨hword, List.ne_nil_of_length_pos hpos, hcounts, hnone, fun hall => ?_⟩
  have hsome := hall h hword hcounts
  rw [hnone] at hsome
  cases hsome

end QuantumBlocks.Chart
