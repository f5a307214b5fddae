/-!
# Glyphs

The letters of a chart are drawn on a grid of five columns and seven rows. There are glyphs for
digits, capitals and some signs; a small letter looks like its capital, and whatever else there is
looks like a question mark. Main statement: the lit cells of every glyph lie on the grid.
-/

namespace QuantumBlocks.Chart

/-! ## The table -/

/-- The number of columns of a glyph. -/
def glyphWidth : Nat := 5

/-- The number of rows of a glyph. -/
def glyphHeight : Nat := 7

/-- The rows of every glyph from top to bottom. The highest of five bits is the leftmost cell. -/
def glyphTable : List (Char × List Nat) :=
  [
    (' ', [0x00, 0x00, 0x00, 0x00, 0x00, 0x00, 0x00]),
    ('0', [0x0E, 0x11, 0x13, 0x15, 0x19, 0x11, 0x0E]),
    ('1', [0x04, 0x0C, 0x04, 0x04, 0x04, 0x04, 0x0E]),
    ('2', [0x0E, 0x11, 0x01, 0x02, 0x04, 0x08, 0x1F]),
    ('3', [0x1F, 0x02, 0x04, 0x02, 0x01, 0x11, 0x0E]),
    ('4', [0x02, 0x06, 0x0A, 0x12, 0x1F, 0x02, 0x02]),
    ('5', [0x1F, 0x10, 0x1E, 0x01, 0x01, 0x11, 0x0E]),
    ('6', [0x06, 0x08, 0x10, 0x1E, 0x11, 0x11, 0x0E]),
    ('7', [0x1F, 0x01, 0x02, 0x04, 0x08, 0x08, 0x08]),
    ('8', [0x0E, 0x11, 0x11, 0x0E, 0x11, 0x11, 0x0E]),
    ('9', [0x0E, 0x11, 0x11, 0x0F, 0x01, 0x02, 0x0C]),
    ('A', [0x0E, 0x11, 0x11, 0x11, 0x1F, 0x11, 0x11]),
    ('B', [0x1E, 0x11, 0x11, 0x1E, 0x11, 0x11, 0x1E]),
    ('C', [0x0E, 0x11, 0x10, 0x10, 0x10, 0x11, 0x0E]),
    ('D', [0x1C, 0x12, 0x11, 0x11, 0x11, 0x12, 0x1C]),
    ('E', [0x1F, 0x10, 0x10, 0x1E, 0x10, 0x10, 0x1F]),
    ('F', [0x1F, 0x10, 0x10, 0x1E, 0x10, 0x10, 0x10]),
    ('G', [0x0E, 0x11, 0x10, 0x17, 0x11, 0x11, 0x0F]),
    ('H', [0x11, 0x11, 0x11, 0x1F, 0x11, 0x11, 0x11]),
    ('I', [0x0E, 0x04, 0x04, 0x04, 0x04, 0x04, 0x0E]),
    ('J', [0x07, 0x02, 0x02, 0x02, 0x02, 0x12, 0x0C]),
    ('K', [0x11, 0x12, 0x14, 0x18, 0x14, 0x12, 0x11]),
    ('L', [0x10, 0x10, 0x10, 0x10, 0x10, 0x10, 0x1F]),
    ('M', [0x11, 0x1B, 0x15, 0x15, 0x11, 0x11, 0x11]),
    ('N', [0x11, 0x11, 0x19, 0x15, 0x13, 0x11, 0x11]),
    ('O', [0x0E, 0x11, 0x11, 0x11, 0x11, 0x11, 0x0E]),
    ('P', [0x1E, 0x11, 0x11, 0x1E, 0x10, 0x10, 0x10]),
    ('Q', [0x0E, 0x11, 0x11, 0x11, 0x15, 0x12, 0x0D]),
    ('R', [0x1E, 0x11, 0x11, 0x1E, 0x14, 0x12, 0x11]),
    ('S', [0x0F, 0x10, 0x10, 0x0E, 0x01, 0x01, 0x1E]),
    ('T', [0x1F, 0x04, 0x04, 0x04, 0x04, 0x04, 0x04]),
    ('U', [0x11, 0x11, 0x11, 0x11, 0x11, 0x11, 0x0E]),
    ('V', [0x11, 0x11, 0x11, 0x11, 0x11, 0x0A, 0x04]),
    ('W', [0x11, 0x11, 0x11, 0x15, 0x15, 0x15, 0x0A]),
    ('X', [0x11, 0x11, 0x0A, 0x04, 0x0A, 0x11, 0x11]),
    ('Y', [0x11, 0x11, 0x11, 0x0A, 0x04, 0x04, 0x04]),
    ('Z', [0x1F, 0x01, 0x02, 0x04, 0x08, 0x10, 0x1F]),
    ('|', [0x04, 0x04, 0x04, 0x04, 0x04, 0x04, 0x04]),
    ('>', [0x08, 0x04, 0x02, 0x01, 0x02, 0x04, 0x08]),
    ('<', [0x02, 0x04, 0x08, 0x10, 0x08, 0x04, 0x02]),
    (':', [0x00, 0x0C, 0x0C, 0x00, 0x0C, 0x0C, 0x00]),
    ('.', [0x00, 0x00, 0x00, 0x00, 0x00, 0x0C, 0x0C]),
    (',', [0x00, 0x00, 0x00, 0x00, 0x0C, 0x04, 0x08]),
    ('%', [0x18, 0x19, 0x02, 0x04, 0x08, 0x13, 0x03]),
    ('(', [0x02, 0x04, 0x08, 0x08, 0x08, 0x04, 0x02]),
    (')', [0x08, 0x04, 0x02, 0x02, 0x02, 0x04, 0x08]),
    ('-', [0x00, 0x00, 0x00, 0x1F, 0x00, 0x00, 0x00]),
    ('+', [0x00, 0x04, 0x04, 0x1F, 0x04, 0x04, 0x00]),
    ('_', [0x00, 0x00, 0x00, 0x00, 0x00, 0x00, 0x1F]),
    ('/', [0x00, 0x01, 0x02, 0x04, 0x08, 0x10, 0x00]),
    ('\'', [0x0C, 0x04, 0x08, 0x00, 0x00, 0x00, 0x00])]

/-- The rows of the question mark. -/
def unknownGlyph : List Nat := [0x0E, 0x11, 0x01, 0x02, 0x04, 0x00, 0x04]

/-! ## Lookup -/

/-- The rows of the glyph of a character. -/
def glyph (c : Char) : List Nat :=
  match glyphTable.find? fun entry => entry.1 = c.toUpper with
  | some entry => entry.2
  | none => unknownGlyph

/-! ## Cells -/

/-- A cell of a glyph. -/
structure Cell where
  column : Nat
  row : Nat
  deriving DecidableEq, Repr

/-- Whether a row has its cell of a column lit. -/
def isLit (bits column : Nat) : Bool := bits.testBit (glyphWidth - 1 - column)

/-- The lit cells of one row. -/
def litCellsOfRow (row bits : Nat) : List Cell :=
  ((List.range glyphWidth).filter (isLit bits)).map fun column => ⟨column, row⟩

/-- The lit cells of a character, row by row. -/
def litCells (c : Char) : List Cell :=
  (List.range glyphHeight).flatMap fun row => litCellsOfRow row ((glyph c).getD row 0)

/-- The lit cells lie on the grid. -/
theorem cell_lt_of_mem_litCells {c : Char} {cell : Cell} (h : cell ∈ litCells c) :
    cell.column < glyphWidth ∧ cell.row < glyphHeight := by
  simp only [litCells, litCellsOfRow, List.mem_flatMap, List.mem_range, List.mem_map,
    List.mem_filter] at h
  obtain ⟨row, hrow, column, ⟨hcolumn, _⟩, rfl⟩ := h
  exact ⟨hcolumn, hrow⟩

end QuantumBlocks.Chart
