import QuantumBlocks.Proofs.Chart.Columns
import QuantumBlocks.Proofs.Chart.InWords

/-!
# A text stays in its box

The width of a text is a product of its length, and the text is painted by going from glyph to
glyph and stopping at the right edge of the canvas. Both agree: a text changes no pixel outside the
box of its width, and what is left out beyond the edge would not be seen. A text that is no wider
than a slot and is centred in it stays in the slot, whatever the halves are rounded to.

* `paintOver_nominalMarks` — nothing that is left out would be seen
* `sameOutside_textMarks` — a text changes nothing outside its box
* `sameOutside_centredMarks` — a centred text changes nothing beside a slot that it fits into
* `text_stays_in_box` — texts in their boxes, labels and values in their slots
-/

namespace QuantumBlocks.Chart

open Number Raster

/-! ## Pixels outside a rectangle -/

/-- Two rasters show the same at every pixel of the canvas outside a rectangle. -/
def SameOutside (r : Rect) (p q : Raster) : Prop :=
  ∀ px py, px < canvasWidth → py < canvasHeight → r.contains px py = false →
    q.ink px py = p.ink px py

section SameOutside

variable {r s : Rect} {p q : Raster}

/-- What holds outside a rectangle holds outside one that has more of the canvas. -/
theorem SameOutside.mono (h : SameOutside r p q)
    (hle : ∀ px py, py < canvasHeight → r.contains px py = true → s.contains px py = true) :
    SameOutside s p q := by
  intro px py hx hy hout
  refine h px py hx hy (Bool.eq_false_iff.mpr fun hin => ?_)
  rw [hle px py hy hin] at hout
  cases hout

/-- A drawing whose marks lie in a rectangle, as far as they lie on the canvas, changes nothing
outside it. -/
theorem sameOutside_paintOver {d : Drawing}
    (h : ∀ m ∈ d, ∀ px py, px < canvasWidth → m.rect.contains px py = true →
      r.contains px py = true) (p : Raster) : SameOutside r p (p.paintOver d) := by
  induction d generalizing p with
  | nil => exact fun _ _ _ _ _ => rfl
  | cons m rest ih =>
    obtain ⟨hm, hrest⟩ := List.forall_mem_cons.mp h
    intro px py hx hy hout
    have hmiss : m.rect.contains px py = false := Bool.eq_false_iff.mpr fun hin => by
      rw [hm px py hx hin] at hout
      cases hout
    rw [paintOver_cons, ih hrest _ px py hx hy hout, ink_fill p m hx hy, Mark.over, hmiss]
    rfl

end SameOutside

/-! ## Beyond the right edge -/

theorem fillRows_zero (ink : Ink) (left rows y : Nat) (inks : Array Ink) :
    fillRows ink left 0 rows y inks = inks := by
  induction rows generalizing y with
  | zero => rfl
  | succ rows ih => exact ih (y + 1)

/-- A mark that begins beyond the right edge is not seen. -/
theorem fill_of_le {m : Mark} (h : canvasWidth ≤ m.rect.left) (p : Raster) : p.fill m = p := by
  have hcount : min (m.rect.left + m.rect.width) canvasWidth - m.rect.left = 0 := by omega
  cases p with
  | mk inks size_eq => simp only [fill, hcount, fillRows_zero]

theorem paintOver_of_le {d : Drawing} (h : ∀ m ∈ d, canvasWidth ≤ m.rect.left) (p : Raster) :
    p.paintOver d = p := by
  induction d with
  | nil => exact paintOver_nil p
  | cons m rest ih =>
    obtain ⟨hm, hrest⟩ := List.forall_mem_cons.mp h
    rw [paintOver_cons, fill_of_le hm, ih hrest]

/-! ## Every glyph in its place -/

/-- The marks of a text with every glyph in its place, on the canvas or beyond it. -/
def nominalMarks (cs : List Char) (x y scale : Nat) : Drawing :=
  cs.zipIdx.flatMap fun (c, index) => letterMarks c (x + index * advance scale) y scale

theorem nominalMarks_cons (c : Char) (rest : List Char) (x y scale : Nat) :
    nominalMarks (c :: rest) x y scale
      = letterMarks c x y scale ++ nominalMarks rest (x + advance scale) y scale := by
  have hplace (index : Nat) :
      x + (index + 1) * advance scale = x + advance scale + index * advance scale := by
    rw [Nat.succ_mul]
    omega
  simp only [nominalMarks, List.zipIdx_cons, List.flatMap_cons, Nat.zero_mul, Nat.add_zero]
  rw [Nat.zero_add, List.zipIdx_succ, List.flatMap_map]
  simp only [hplace]

/-- Where a mark of a text lies: behind its last glyph there would be an empty column. -/
theorem bounds_of_mem_nominalMarks {cs : List Char} {x y scale : Nat} {m : Mark}
    (hm : m ∈ nominalMarks cs x y scale) :
    x ≤ m.rect.left ∧ m.rect.left + m.rect.width + scale ≤ x + cs.length * advance scale ∧
      y ≤ m.rect.top ∧ m.rect.top + m.rect.height ≤ y + glyphHeight * scale := by
  induction cs generalizing x with
  | nil => exact absurd hm List.not_mem_nil
  | cons c rest ih =>
    rw [nominalMarks_cons, List.mem_append] at hm
    rw [List.length_cons, Nat.succ_mul]
    rcases hm with hm | hm
    · obtain ⟨cell, hcell, rfl⟩ := List.mem_map.mp hm
      have hbottom := bottom_cellMark_le hcell x y scale
      have hcolumn : (cell.column + 1 + 1) * scale ≤ advance scale :=
        Nat.mul_le_mul_right _ (Nat.succ_le_succ (cell_lt_of_mem_litCells hcell).1)
      simp only [Nat.succ_mul] at hcolumn
      simp only [cellMark] at hbottom ⊢
      omega
    · have hrest := ih hm
      omega

/-- **Nothing that is left out beyond the right edge would be seen.** -/
theorem paintOver_nominalMarks (cs : List Char) (x y scale : Nat) (p : Raster) :
    p.paintOver (nominalMarks cs x y scale) = p.paintOver (textMarks cs x y scale) := by
  induction cs generalizing x p with
  | nil => rfl
  | cons c rest ih =>
    rw [nominalMarks_cons, textMarks, paintOver_append, paintOver_append]
    split
    · next hedge =>
      rw [paintOver_nil]
      exact paintOver_of_le (fun m hm =>
        Nat.le_trans hedge (bounds_of_mem_nominalMarks hm).1) _
    · exact ih _ _

/-! ## Boxes -/

/-- The box that the width of a text promises. -/
def textBox (text : String) (x y scale : Nat) : Rect :=
  ⟨x, y, textWidth text scale, glyphHeight * scale⟩

/-- **A text changes nothing outside its box.** -/
theorem sameOutside_textMarks (text : String) (x y : Nat) {scale : Nat}
    (hscale : advance scale < 2 ^ 32) (p : Raster) :
    SameOutside (textBox text x y scale) p (p.paintOver (textMarks text.toList x y scale)) := by
  rw [← paintOver_nominalMarks]
  refine sameOutside_paintOver (fun m hm px py hx hin => ?_) p
  obtain ⟨hleft, hright, htop, hbottom⟩ := bounds_of_mem_nominalMarks hm
  rw [String.length_toList] at hright
  rw [Rect.contains_iff] at hin ⊢
  -- A width that is capped still reaches beyond the canvas.
  have hcap : canvasWidth + scale ≤ maxUnsigned32 := by
    have hmax : maxUnsigned32 = 2 ^ 32 - 1 := rfl
    simp only [advance, glyphWidth] at hscale
    simp only [canvasWidth, hmax]
    omega
  simp only [textBox, textWidth]
  omega

/-- **A text that fits between two columns and is centred there** changes nothing beside them. -/
theorem sameOutside_centredMarks {text : String} {left width scale : Nat}
    (hscale : advance scale < 2 ^ 32) (hwidth : textWidth text scale ≤ width) (y : Nat)
    (p : Raster) :
    SameOutside ⟨left, 0, width, canvasHeight⟩ p
      (p.paintOver (centredMarks text (left + width / 2) y scale)) := by
  refine (sameOutside_textMarks text _ y hscale p).mono fun px py hy hin => ?_
  rw [Rect.contains_iff] at hin ⊢
  simp only [textBox] at hin ⊢
  omega

/-! ## Slots -/

/-- The columns of the canvas that belong to the label of an index. -/
def slotRect (h : Histogram) (index : Nat) : Rect :=
  ⟨plotLeft + slotWidth h.size * index, 0, slotWidth h.size, canvasHeight⟩

theorem advance_fittingScale_lt (text : String) (room : Nat) :
    advance (fittingScale text room) < 2 ^ 32 :=
  Nat.lt_of_le_of_lt (advance_le (fittingScale_le text room)) (by decide)

/-- A text that fits into the slot of a bar in the scale that is chosen for it stays there. -/
theorem sameOutside_slotRect {h : Histogram} {index : Nat} {b : Bar}
    (hb : (bars h)[index]? = some b) {text : String}
    (hwidth : textWidth text (fittingScale text b.slot) ≤ b.slot) (y : Nat) (p : Raster) :
    SameOutside (slotRect h index) p
      (p.paintOver (centredMarks text b.center y (fittingScale text b.slot))) := by
  rw [getElem?_bars, Option.map_eq_some_iff] at hb
  obtain ⟨entry, -, rfl⟩ := hb
  exact sameOutside_centredMarks (advance_fittingScale_lt text _) hwidth y p

/-! ## Texts and their places -/

/-- **A text stays in the box that its width promises.** Drawn with words, a text of any length
changes no pixel outside its box, and the picture is the same as with every glyph in its place. So
a label or the text of a count that is no wider than the slot of its bar changes no pixel outside
the columns of that slot. -/
theorem text_stays_in_box :
    (∀ (text : String) (x y scale : Nat) (p : Raster),
      x + advance scale < 2 ^ 32 → y + glyphHeight * scale < 2 ^ 32 →
      ∃ width q, textWidth? text scale = some width ∧
        drawText? y scale p x text.toList = some q ∧
        SameOutside ⟨x, y, width, glyphHeight * scale⟩ p q ∧
        q = p.paintOver (nominalMarks text.toList x y scale)) ∧
    (∀ (h : Histogram) (index : Nat) (b : Bar), (bars h)[index]? = some b → ∀ p : Raster,
      (textWidth b.label (fittingScale b.label b.slot) ≤ b.slot →
        SameOutside (slotRect h index) p (p.paintOver b.labelMarks)) ∧
      (textWidth (toString b.count) (fittingScale (toString b.count) b.slot) ≤ b.slot →
        SameOutside (slotRect h index) p (p.paintOver b.valueMarks))) := by
  constructor
  · intro text x y scale p hx hy
    have hscale : advance scale < 2 ^ 32 := by omega
    refine ⟨_, _, textWidth?_of_lt text hscale, drawText?_of_lt hy text.toList hx p, ?_, ?_⟩
    · exact sameOutside_textMarks text x y hscale p
    · exact (paintOver_nominalMarks text.toList x y scale p).symm
  · intro h index b hb p
    exact ⟨fun hwidth => sameOutside_slotRect hb hwidth _ p,
      fun hwidth => sameOutside_slotRect hb hwidth _ p⟩

/-- A text that the right edge cuts off, and the second of two labels. -/
theorem text_stays_in_box_edge :
    (∃ q, drawText? 20 3 blank 790 "11".toList = some q ∧
      q = blank.paintOver (nominalMarks "11".toList 790 20 3) ∧
      ∀ py, py < canvasHeight → q.ink 789 py = blank.ink 789 py) ∧
    (∃ b, (bars (Histogram.ofList [("01", 3), ("10", 1)]))[1]? = some b ∧ b.label = "10" ∧
      SameOutside ⟨420, 0, 350, 500⟩ blank (blank.paintOver b.labelMarks)) := by
  obtain ⟨hbox, hslot⟩ := text_stays_in_box
  constructor
  · obtain ⟨width, q, -, hdrawn, hsame, hnominal⟩ :=
      hbox "11" 790 20 3 blank (by decide) (by decide)
    refine ⟨q, hdrawn, hnominal, fun py hy => hsame 789 py (by decide) hy ?_⟩
    exact Bool.eq_false_iff.mpr fun hin =>
      absurd (Rect.contains_iff.mp hin).1.1 (show ¬790 ≤ 789 by decide)
  · refine ⟨barOf 4 350 1 "10" 1, by decide, rfl, ?_⟩
    exact (hslot (Histogram.ofList [("01", 3), ("10", 1)]) 1 _ (by decide) blank).1 (by decide)

end QuantumBlocks.Chart
