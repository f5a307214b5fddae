import QuantumBlocks.Chart.Glyph
import QuantumBlocks.Chart.Raster
import QuantumBlocks.Number.Binary64

/-!
# Lettering

Text is drawn glyph by glyph from left to right, with one empty column between two glyphs, and
every cell of a glyph is a square of `scale` pixels. What would begin beyond the right edge of the
canvas is not drawn at all. Main statement: every mark of a text lies within the height of its
glyphs.
-/

namespace QuantumBlocks.Chart

open Number

/-! ## Width -/

/-- How far the next glyph is to the right. -/
def advance (scale : Nat) : Nat := (glyphWidth + 1) * scale

/-- The width of a text, without the empty column after its last glyph. -/
def textWidth (text : String) (scale : Nat) : Nat :=
  min (text.length * advance scale) maxUnsigned32 - scale

/-- The greater of two scales if the text then fits into `room` pixels. -/
def fittingScale (text : String) (room : Nat) : Nat := if textWidth text 2 ≤ room then 2 else 1

/-! ## Marks -/

/-- The square of a cell of a glyph whose upper left corner is at `x` and `y`. -/
def cellMark (x y scale : Nat) (cell : Cell) : Mark :=
  ⟨⟨x + cell.column * scale, y + cell.row * scale, scale, scale⟩, .text⟩

/-- The marks of one character. -/
def letterMarks (c : Char) (x y scale : Nat) : Drawing := (litCells c).map (cellMark x y scale)

/-- The marks of a text whose upper left corner is at `x` and `y`. -/
def textMarks (cs : List Char) (x y scale : Nat) : Drawing :=
  match cs with
  | [] => []
  | c :: rest =>
    letterMarks c x y scale
      ++ if canvasWidth ≤ x + advance scale then []
        else textMarks rest (x + advance scale) y scale

/-- The marks of a text that is centred on a column. -/
def centredMarks (text : String) (center y scale : Nat) : Drawing :=
  textMarks text.toList (center - textWidth text scale / 2) y scale

/-- A cell lies within the height of its glyph. -/
theorem bottom_cellMark_le {c : Char} {cell : Cell} (h : cell ∈ litCells c) (x y scale : Nat) :
    (cellMark x y scale cell).rect.top + (cellMark x y scale cell).rect.height
      ≤ y + glyphHeight * scale := by
  have hmul := Nat.mul_le_mul_right scale (cell_lt_of_mem_litCells h).2
  simp only [cellMark, Nat.succ_mul] at hmul ⊢
  omega

/-- All marks of a text lie within the height of its glyphs. -/
theorem bottom_le_of_mem_textMarks {cs : List Char} {x y scale : Nat} {m : Mark}
    (h : m ∈ textMarks cs x y scale) : m.rect.top + m.rect.height ≤ y + glyphHeight * scale := by
  induction cs generalizing x with
  | nil => simp [textMarks] at h
  | cons c rest ih =>
    rw [textMarks, List.mem_append] at h
    rcases h with h | h
    · obtain ⟨cell, hc, rfl⟩ := List.mem_map.1 h
      exact bottom_cellMark_le hc x y scale
    · split at h
      · simp at h
      · exact ih h

end QuantumBlocks.Chart
