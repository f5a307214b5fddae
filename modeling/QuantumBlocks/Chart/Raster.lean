/-!
# Pictures made of rectangles

A drawing is a list of filled rectangles that are painted one after the other, so a later one
hides an earlier one. Painting it on a canvas of fixed size gives a raster, and what lies outside
the canvas is cut off. Main statement: a raster shows at every pixel of the canvas the ink that the
drawing has there.
-/

namespace QuantumBlocks.Chart

/-! ## Inks -/

/-- What a pixel can show. -/
inductive Ink where
  | background
  | axis
  | grid
  | bar
  | edge
  | text
  deriving DecidableEq, Repr, Inhabited

/-- Red, green and blue. -/
structure Colour where
  red : UInt8
  green : UInt8
  blue : UInt8
  deriving DecidableEq, Repr

/-- The colour of an ink. -/
def Ink.colour : Ink → Colour
  | .background => ⟨255, 255, 255⟩
  | .axis => ⟨51, 51, 51⟩
  | .grid => ⟨225, 225, 225⟩
  | .bar => ⟨110, 130, 160⟩
  | .edge => ⟨60, 75, 100⟩
  | .text => ⟨40, 40, 40⟩

/-! ## Drawings -/

/-- A rectangle of pixels. -/
structure Rect where
  left : Nat
  top : Nat
  width : Nat
  height : Nat
  deriving DecidableEq, Repr

/-- Whether a pixel lies in a rectangle. -/
def Rect.contains (r : Rect) (x y : Nat) : Bool :=
  r.left ≤ x && x < r.left + r.width && (r.top ≤ y && y < r.top + r.height)

/-- A filled rectangle. -/
structure Mark where
  rect : Rect
  ink : Ink
  deriving DecidableEq, Repr

/-- Filled rectangles in the order in which they are painted. -/
abbrev Drawing := List Mark

/-- The ink of a pixel once a mark is painted over it. -/
def Mark.over (m : Mark) (x y : Nat) (below : Ink) : Ink :=
  if m.rect.contains x y then m.ink else below

/-- The ink that a drawing has at a pixel: that of the last mark there. -/
def Drawing.ink (d : Drawing) (x y : Nat) : Ink :=
  d.foldl (fun below m => m.over x y below) .background

/-! ## Rasters -/

/-- The width of the canvas. -/
def canvasWidth : Nat := 800

/-- The height of the canvas. -/
def canvasHeight : Nat := 500

/-- The inks of all pixels of the canvas, row after row. -/
structure Raster where
  inks : Array Ink
  size_eq : inks.size = canvasWidth * canvasHeight

/-- Gives an ink to `count` pixels from `i` on. -/
def fillSpan (ink : Ink) : (count i : Nat) → Array Ink → Array Ink
  | 0, _, inks => inks
  | count + 1, i, inks => fillSpan ink count (i + 1) (inks.setIfInBounds i ink)

theorem size_fillSpan (ink : Ink) (count i : Nat) (inks : Array Ink) :
    (fillSpan ink count i inks).size = inks.size := by
  induction count generalizing i inks with
  | zero => rfl
  | succ count ih => simp [fillSpan, ih]

/-- The pixels from `i` on have the ink, the others keep theirs. -/
theorem getElem?_fillSpan (ink : Ink) (count i : Nat) (inks : Array Ink) (j : Nat)
    (h : j < inks.size) :
    (fillSpan ink count i inks)[j]? = if i ≤ j ∧ j < i + count then some ink else inks[j]? := by
  induction count generalizing i inks with
  | zero =>
    rw [if_neg (by omega)]
    rfl
  | succ count ih =>
    rw [fillSpan, ih _ _ (by simpa using h), Array.getElem?_setIfInBounds]
    by_cases hij : i = j
    · subst hij
      simp [h]
    · by_cases hj : i ≤ j ∧ j < i + (count + 1)
      · rw [if_pos hj, if_pos (by omega)]
      · rw [if_neg hj, if_neg (by omega), if_neg hij]

/-- Gives an ink to the pixels of `rows` rows from `y` on, in each to `count` pixels from `left`
on. -/
def fillRows (ink : Ink) (left count : Nat) : (rows y : Nat) → Array Ink → Array Ink
  | 0, _, inks => inks
  | rows + 1, y, inks =>
    fillRows ink left count rows (y + 1) (fillSpan ink count (y * canvasWidth + left) inks)

theorem size_fillRows (ink : Ink) (left count rows y : Nat) (inks : Array Ink) :
    (fillRows ink left count rows y inks).size = inks.size := by
  induction rows generalizing y inks with
  | zero => rfl
  | succ rows ih => simp [fillRows, ih, size_fillSpan]

/-- The pixels of the rows have the ink, the others keep theirs. -/
theorem getElem?_fillRows {ink : Ink} {left count rows y : Nat} {inks : Array Ink}
    (hfit : left + count ≤ canvasWidth ∨ count = 0) {px py : Nat} (hx : px < canvasWidth)
    (hp : py * canvasWidth + px < inks.size) :
    (fillRows ink left count rows y inks)[py * canvasWidth + px]? =
      if (left ≤ px ∧ px < left + count) ∧ y ≤ py ∧ py < y + rows then some ink
      else inks[py * canvasWidth + px]? := by
  induction rows generalizing y inks with
  | zero =>
    rw [if_neg (by omega)]
    rfl
  | succ rows ih =>
    have hspan : (y * canvasWidth + left ≤ py * canvasWidth + px
        ∧ py * canvasWidth + px < y * canvasWidth + left + count)
        ↔ (left ≤ px ∧ px < left + count) ∧ y = py := by
      simp only [canvasWidth] at hfit hx ⊢
      omega
    rw [fillRows, ih (by rwa [size_fillSpan]), getElem?_fillSpan _ _ _ _ _ hp]
    simp only [hspan]
    by_cases hrow : (left ≤ px ∧ px < left + count) ∧ y + 1 ≤ py ∧ py < y + 1 + rows
    · rw [if_pos hrow, if_pos (by omega)]
    · rw [if_neg hrow]
      by_cases hin : (left ≤ px ∧ px < left + count) ∧ y ≤ py ∧ py < y + (rows + 1)
      · rw [if_pos hin, if_pos (by omega)]
      · rw [if_neg hin, if_neg (by omega)]

namespace Raster

/-- A canvas on which nothing is painted. -/
def blank : Raster := ⟨Array.replicate (canvasWidth * canvasHeight) .background, by simp⟩

instance : Inhabited Raster := ⟨blank⟩

/-- The ink of a pixel. -/
def ink (p : Raster) (x y : Nat) : Ink := p.inks[y * canvasWidth + x]?.getD .background

/-- Paints a mark, as far as it lies on the canvas. -/
def fill (p : Raster) (m : Mark) : Raster where
  inks :=
    fillRows m.ink m.rect.left (min (m.rect.left + m.rect.width) canvasWidth - m.rect.left)
      (min (m.rect.top + m.rect.height) canvasHeight - m.rect.top) m.rect.top p.inks
  size_eq := by rw [size_fillRows, p.size_eq]

/-- Painting a mark changes the pixels of its rectangle and no others. -/
theorem ink_fill (p : Raster) (m : Mark) {x y : Nat} (hx : x < canvasWidth)
    (hy : y < canvasHeight) : (p.fill m).ink x y = m.over x y (p.ink x y) := by
  have hp : y * canvasWidth + x < p.inks.size := by
    rw [p.size_eq]
    simp only [canvasWidth, canvasHeight] at hx hy ⊢
    omega
  have hiff : ((m.rect.left ≤ x ∧ x < m.rect.left
      + (min (m.rect.left + m.rect.width) canvasWidth - m.rect.left)) ∧ m.rect.top ≤ y
      ∧ y < m.rect.top + (min (m.rect.top + m.rect.height) canvasHeight - m.rect.top))
      ↔ m.rect.contains x y = true := by
    simp only [Rect.contains, Bool.and_eq_true, decide_eq_true_eq]
    omega
  unfold ink fill
  rw [getElem?_fillRows (by omega) hx hp]
  simp only [hiff, Mark.over]
  split <;> rfl

/-- The raster of a drawing. -/
def paint (d : Drawing) : Raster := d.foldl fill blank

/-- A raster shows at every pixel the ink that the drawing has there. -/
theorem ink_paint (d : Drawing) {x y : Nat} (hx : x < canvasWidth) (hy : y < canvasHeight) :
    (paint d).ink x y = d.ink x y := by
  have general : ∀ (d : Drawing) (p : Raster),
      (d.foldl fill p).ink x y = d.foldl (fun below m => m.over x y below) (p.ink x y) := by
    intro d
    induction d with
    | nil => exact fun _ => rfl
    | cons m rest ih => exact fun p => by rw [List.foldl_cons, ih, ink_fill p m hx hy]; rfl
  have hblank : blank.ink x y = .background := by
    unfold ink blank
    rw [Array.getElem?_replicate]
    split <;> rfl
  unfold paint Drawing.ink
  rw [general, hblank]

/-- The inks of a row from left to right. -/
def row (p : Raster) (y : Nat) : List Ink := (List.range canvasWidth).map fun x => p.ink x y

/-- The rows from top to bottom. -/
def rows (p : Raster) : List (List Ink) := (List.range canvasHeight).map p.row

end Raster

end QuantumBlocks.Chart
