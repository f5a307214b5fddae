import QuantumBlocks.Chart.Raster
import QuantumBlocks.Proofs.Number.Words

/-!
# Marks painted pixel by pixel

A mark is painted by a loop over its rows and columns that writes one pixel after the other and
fails at a pixel that is not on the canvas. Its right and lower ends are capped sums, cut off at
the edges of the canvas. The loop never fails, and paints the mark.

* `fill?_eq_some` — a mark painted pixel by pixel
* `foldlM_paintOver` — pictures painted part by part
-/

namespace QuantumBlocks.Chart.Raster

open Number

/-! ## One pixel -/

/-- Gives an ink to a pixel, which has to be one of the canvas. -/
def put? (ink : Ink) (p : Raster) (x y : Nat) : Option Raster :=
  if x < canvasWidth ∧ y < canvasHeight then
    some ⟨p.inks.setIfInBounds (y * canvasWidth + x) ink, by simp [p.size_eq]⟩
  else none

/-! ## Rows and columns -/

/-- Gives an ink to the pixels of a row from `left` to before `right`. -/
def fillRow? (ink : Ink) (left right : Nat) (p : Raster) (y : Nat) : Option Raster :=
  (List.range' left (right - left)).foldlM (fun p x => p.put? ink x y) p

/-- Paints a mark pixel by pixel. -/
def fill? (p : Raster) (m : Mark) : Option Raster :=
  let right := min (addCapped 32 m.rect.left m.rect.width) canvasWidth
  let bottom := min (addCapped 32 m.rect.top m.rect.height) canvasHeight
  (List.range' m.rect.top (bottom - m.rect.top)).foldlM (fillRow? m.ink m.rect.left right) p

/-- The raster after `count` pixels of a row are given an ink from `x` on. -/
def withSpan (ink : Ink) (count : Nat) (p : Raster) (x y : Nat) : Raster :=
  ⟨fillSpan ink count (y * canvasWidth + x) p.inks, by rw [size_fillSpan, p.size_eq]⟩

/-- The raster after the pixels of `rows` rows are given an ink from `y` on. -/
def withRows (ink : Ink) (left count rows : Nat) (p : Raster) (y : Nat) : Raster :=
  ⟨fillRows ink left count rows y p.inks, by rw [size_fillRows, p.size_eq]⟩

theorem foldlM_put? {ink : Ink} {count x y : Nat} (hx : x + count ≤ canvasWidth ∨ count = 0)
    (hy : y < canvasHeight) (p : Raster) :
    (List.range' x count).foldlM (fun p x => p.put? ink x y) p
      = some (p.withSpan ink count x y) := by
  induction count generalizing x p with
  | zero => rfl
  | succ count ih =>
    rw [List.range'_succ, List.foldlM_cons, put?, if_pos ⟨by omega, hy⟩, Option.bind_eq_bind,
      Option.bind_some, ih (by omega)]
    simp only [withSpan, fillSpan, Nat.add_assoc]

theorem fillRow?_eq_some {ink : Ink} {left right y : Nat} (hright : right ≤ canvasWidth)
    (hy : y < canvasHeight) (p : Raster) :
    p.fillRow? ink left right y = some (p.withSpan ink (right - left) left y) :=
  foldlM_put? (by omega) hy p

theorem foldlM_fillRow? {ink : Ink} {left right rows y : Nat} (hright : right ≤ canvasWidth)
    (hy : y + rows ≤ canvasHeight ∨ rows = 0) (p : Raster) :
    (List.range' y rows).foldlM (fillRow? ink left right) p
      = some (p.withRows ink left (right - left) rows y) := by
  induction rows generalizing y p with
  | zero => rfl
  | succ rows ih =>
    rw [List.range'_succ, List.foldlM_cons, fillRow?_eq_some hright (by omega)]
    exact ih (by omega) _

/-- The canvas ends long before sums are capped. -/
theorem min_addCapped {a b bound : Nat} (h : bound < 2 ^ 32) :
    min (addCapped 32 a b) bound = min (a + b) bound := by
  unfold addCapped
  omega

/-- **Painting a mark writes only pixels of the canvas.** -/
theorem fill?_eq_some (p : Raster) (m : Mark) : p.fill? m = some (p.fill m) := by
  have hwidth : canvasWidth < 2 ^ 32 := by decide
  have hheight : canvasHeight < 2 ^ 32 := by decide
  simp only [fill?, min_addCapped hwidth, min_addCapped hheight]
  exact foldlM_fillRow? (Nat.min_le_right _ _) (by omega) p

/-! ## Drawings -/

/-- The raster after a drawing is painted over it. -/
def paintOver (p : Raster) (d : Drawing) : Raster := d.foldl fill p

theorem paintOver_nil (p : Raster) : p.paintOver [] = p := by rw [paintOver, List.foldl_nil]

theorem paintOver_cons (p : Raster) (m : Mark) (d : Drawing) :
    p.paintOver (m :: d) = (p.fill m).paintOver d := by
  rw [paintOver, List.foldl_cons, paintOver]

theorem paintOver_append (p : Raster) (d e : Drawing) :
    p.paintOver (d ++ e) = (p.paintOver d).paintOver e := List.foldl_append

/-- **A picture is painted part by part**, if each step paints its part. -/
theorem foldlM_paintOver {α : Type} {step : Raster → α → Option Raster} {marks : α → Drawing}
    {parts : List α} (h : ∀ p, ∀ a ∈ parts, step p a = some (p.paintOver (marks a)))
    (p : Raster) : parts.foldlM step p = some (p.paintOver (parts.flatMap marks)) := by
  induction parts generalizing p with
  | nil => rfl
  | cons a rest ih =>
    rw [List.foldlM_cons, h p a List.mem_cons_self, List.flatMap_cons, paintOver_append]
    exact ih (fun p b hb => h p b (List.mem_cons_of_mem _ hb)) _

end QuantumBlocks.Chart.Raster
