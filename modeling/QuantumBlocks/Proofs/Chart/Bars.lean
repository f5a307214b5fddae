import QuantumBlocks.Chart.Picture

/-!
# The bars of a chart

A chart has one bar for each label, in the order of the labels, and fills the rectangles of those
that have a height. Nothing else in a chart has the ink of bars.

* `getElem?_bars` — the bar of a label by the place of the label
* `barRects_eq` — the rectangles that are filled
-/

namespace QuantumBlocks.Chart

/-! ## One bar for each label -/

theorem getElem?_bars (h : Histogram) (index : Nat) :
    (bars h)[index]? = h.entries[index]?.map fun entry =>
      barOf (axisEnd h.maxCount) (slotWidth h.size) index entry.1 entry.2 := by
  rw [bars, List.getElem?_map, List.getElem?_zipIdx, Option.map_map, Nat.zero_add]
  rfl

theorem length_bars (h : Histogram) : (bars h).length = h.size := by
  rw [bars, List.length_map, List.length_zipIdx]
  rfl

theorem mem_bars_iff {h : Histogram} {b : Bar} :
    b ∈ bars h ↔ ∃ index entry, h.entries[index]? = some entry ∧
      barOf (axisEnd h.maxCount) (slotWidth h.size) index entry.1 entry.2 = b := by
  simp only [List.mem_iff_getElem?, getElem?_bars, Option.map_eq_some_iff]

/-- The bars stand in the order of the labels, with their counts. -/
theorem map_bars (h : Histogram) : (bars h).map (fun b => (b.label, b.count)) = h.entries := by
  rw [bars, List.map_map]
  exact List.zipIdx_map_fst 0 h.entries

/-! ## Marks by their inks -/

/-- A mark of a text is a cell of a glyph whose upper edge is that of the text. -/
theorem exists_of_mem_textMarks {cs : List Char} {x y scale : Nat} {m : Mark}
    (hm : m ∈ textMarks cs x y scale) : ∃ left cell, m = cellMark left y scale cell := by
  induction cs generalizing x with
  | nil => exact absurd hm List.not_mem_nil
  | cons c rest ih =>
    rw [textMarks, List.mem_append] at hm
    rcases hm with hm | hm
    · obtain ⟨cell, -, rfl⟩ := List.mem_map.mp hm
      exact ⟨x, cell, rfl⟩
    · split at hm
      · cases hm
      · exact ih hm

/-- Marks none of which has a certain ink. -/
def Lacks (ink : Ink) (d : Drawing) : Prop := ∀ m ∈ d, m.ink ≠ ink

section Lacks

variable {ink : Ink}

theorem lacks_nil : Lacks ink [] := fun _ hm => absurd hm List.not_mem_nil

theorem lacks_gridMarks (hink : .grid ≠ ink) (row tick : Nat) : Lacks ink (gridMarks row tick) := by
  unfold gridMarks
  split
  · exact fun m hm => (List.mem_singleton.mp hm) ▸ hink
  · exact lacks_nil

variable (hink : .text ≠ ink)

include hink

theorem lacks_textMarks (cs : List Char) (x y scale : Nat) :
    Lacks ink (textMarks cs x y scale) := by
  intro m hm
  obtain ⟨left, cell, rfl⟩ := exists_of_mem_textMarks hm
  exact hink

theorem lacks_titleMarks : Lacks ink titleMarks := lacks_textMarks hink _ _ _ _

theorem lacks_captionMarks : Lacks ink captionMarks := fun m hm =>
  (List.mem_append.mp hm).elim (lacks_textMarks hink _ _ _ _ m) (lacks_textMarks hink _ _ _ _ m)

end Lacks

/-! ## What is filled -/

/-- The rectangles that a chart fills as bars, in the order in which they are painted. -/
def barRects (h : Histogram) : List Rect :=
  ((drawing h).filter fun m => m.ink = .bar).map Mark.rect

theorem Lacks.filter_eq_nil {ink : Ink} {d : Drawing} (h : Lacks ink d) :
    d.filter (fun m => m.ink = ink) = [] :=
  List.filter_eq_nil_iff.mpr fun m hm hink => h m hm (of_decide_eq_true hink)

theorem lacks_bar_ticksMarks (axis : Nat) : Lacks .bar (ticksMarks axis) := by
  intro m hm
  obtain ⟨tick, -, hm⟩ := List.mem_flatMap.mp hm
  simp only [tickMarks, List.mem_append, List.mem_singleton] at hm
  rcases hm with (hm | rfl) | hm
  · exact lacks_gridMarks (by decide) _ _ m hm
  · exact nofun
  · exact lacks_textMarks (by decide) _ _ _ _ m hm

theorem Bar.filter_marks (b : Bar) :
    b.marks.filter (fun m => m.ink = .bar)
      = if 0 < b.rect.height then [⟨b.rect, .bar⟩] else [] := by
  have hvalue : Lacks .bar b.valueMarks := lacks_textMarks (by decide) _ _ _ _
  have hlabel : Lacks .bar b.labelMarks := lacks_textMarks (by decide) _ _ _ _
  rw [marks, List.filter_append, List.filter_append, hvalue.filter_eq_nil, hlabel.filter_eq_nil,
    List.append_nil, List.append_nil, boxMarks]
  split
  · rfl
  · rfl

theorem Bar.filter_flatMap_marks (bs : List Bar) :
    (bs.flatMap Bar.marks).filter (fun m => m.ink = .bar)
      = (bs.filter fun b => 0 < b.rect.height).map fun b => ⟨b.rect, .bar⟩ := by
  induction bs with
  | nil => rfl
  | cons b rest ih =>
    rw [List.flatMap_cons, List.filter_append, filter_marks, ih, List.filter_cons]
    simp only [decide_eq_true_eq]
    split
    · rfl
    · rfl

/-- **The rectangles that are filled** are those of the bars that have a height. -/
theorem barRects_eq (h : Histogram) :
    barRects h = ((bars h).filter fun b => 0 < b.rect.height).map Bar.rect := by
  have htitle : Lacks .bar titleMarks := lacks_titleMarks (by decide)
  have haxes : Lacks .bar axisMarks := by simp [Lacks, axisMarks]
  have hcaption : Lacks .bar captionMarks := lacks_captionMarks (by decide)
  rw [barRects, drawing]
  simp only [List.filter_append, htitle.filter_eq_nil, haxes.filter_eq_nil,
    hcaption.filter_eq_nil, (lacks_bar_ticksMarks _).filter_eq_nil, Bar.filter_flatMap_marks,
    List.nil_append, List.append_nil, List.map_map]
  rfl

end QuantumBlocks.Chart
