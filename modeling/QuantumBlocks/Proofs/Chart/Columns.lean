import QuantumBlocks.Proofs.Chart.Axis
import QuantumBlocks.Proofs.Chart.Bars
import QuantumBlocks.Proofs.Histogram.Greatest
import QuantumBlocks.Proofs.Number.Digits
import Mathlib.Data.List.Induction
import Mathlib.Data.List.Nodup

/-!
# The columns of bars

Every bar stands in the slot of its label. Where a slot has at least two columns, which holds up to
350 labels, a bar begins to the right of the column in which its slot begins, so that every label
has columns of its own and none of them is that of the vertical axis. With more labels a slot has
one column, and the first one is the column of the axis; with more than 700 it has none, and all
bars stand there. The axes are painted over the bars.

* `lt_left_barOf`, `right_barOf_le` — a bar within its slot
* `ink_paint_plotLeft` — the column of the vertical axis shows nothing else
* `barRects_columns` — the columns of bars by the number of labels
-/

namespace QuantumBlocks.Chart

open Number

/-! ## A bar within its slot -/

section Slot

variable {axis slot index : Nat} {label : String} {count : Nat}

theorem le_left_barOf :
    plotLeft + slot * index ≤ (barOf axis slot index label count).rect.left := by
  simp only [barOf, slotCenter, barWidth]
  omega

theorem width_barOf_pos : 0 < (barOf axis slot index label count).rect.width := by
  simp only [barOf, barWidth]
  omega

/-- A bar ends before the next slot begins. -/
theorem right_barOf_le (h : 0 < slot) :
    (barOf axis slot index label count).rect.left + (barOf axis slot index label count).rect.width
      ≤ plotLeft + slot * (index + 1) := by
  simp only [barOf, slotCenter, barWidth, Nat.mul_succ]
  omega

/-- In a slot of two columns or more the first one is free. -/
theorem lt_left_barOf (h : 2 ≤ slot) :
    plotLeft + slot * index < (barOf axis slot index label count).rect.left := by
  simp only [barOf, slotCenter, barWidth]
  omega

/-- In a narrower slot a bar begins where its slot does, and has one column all the same. -/
theorem rect_barOf_of_le_one (h : slot ≤ 1) :
    (barOf axis slot index label count).rect.left = plotLeft + slot * index ∧
      (barOf axis slot index label count).rect.width = 1 := by
  simp only [barOf, slotCenter, barWidth]
  omega

end Slot

/-! ## Slots -/

theorem two_le_slotWidth {count : Nat} (hpos : 0 < count) (h : count ≤ 350) :
    2 ≤ slotWidth count :=
  (Nat.le_div_iff_mul_le hpos).mpr (Nat.mul_le_mul_left 2 h)

theorem slotWidth_eq_one {count : Nat} (hlow : 350 < count) (h : count ≤ 700) :
    slotWidth count = 1 := by
  have hwidth : plotWidth = 700 := rfl
  exact Nat.div_eq_of_lt_le (by omega) (by omega)

theorem slotWidth_eq_zero {count : Nat} (h : 700 < count) : slotWidth count = 0 :=
  Nat.div_eq_of_lt h

/-! ## The bars of a chart -/

section Bars

variable {h : Histogram}

theorem head?_bars (h : Histogram) :
    (bars h).head? = h.entries.head?.map fun entry =>
      barOf (axisEnd h.maxCount) (slotWidth h.size) 0 entry.1 entry.2 := by
  rw [List.head?_eq_getElem?, getElem?_bars, List.head?_eq_getElem?]

theorem mem_barRects_iff {r : Rect} :
    r ∈ barRects h ↔ ∃ b ∈ bars h, 0 < b.rect.height ∧ b.rect = r := by
  rw [barRects_eq]
  simp only [List.mem_map, List.mem_filter, decide_eq_true_eq, and_assoc]

/-- Bars stand on the horizontal axis and do not leave the plot. -/
theorem top_of_mem_bars (hcounts : ∀ entry ∈ h.entries, entry.2 ≤ maxUnsigned64) {b : Bar}
    (hb : b ∈ bars h) : plotTop ≤ b.rect.top ∧ b.rect.top + b.rect.height = plotBottom := by
  obtain ⟨index, entry, hentry, rfl⟩ := mem_bars_iff.mp hb
  have hmem := List.mem_of_getElem? hentry
  obtain ⟨greatest, hgreatest, hmax⟩ := Histogram.exists_eq_maxCount (List.ne_nil_of_mem hmem)
  have hle : entry.2 ≤ axisEnd h.maxCount :=
    Nat.le_trans (Histogram.le_maxCount hmem) (le_axisEnd (hmax ▸ hcounts greatest hgreatest))
  have hheight := heightOf_le_plotHeight hle
  simp only [barOf, plotHeight, plotTop, plotBottom, canvasHeight] at hheight ⊢
  omega

theorem right_le_of_mem_bars (hslot : 0 < slotWidth h.size) {b : Bar} (hb : b ∈ bars h) :
    b.rect.left + b.rect.width ≤ plotRight := by
  obtain ⟨index, entry, hentry, rfl⟩ := mem_bars_iff.mp hb
  have hindex : index + 1 ≤ h.size := (List.getElem?_eq_some_iff.mp hentry).1
  calc _ ≤ plotLeft + slotWidth h.size * (index + 1) := right_barOf_le hslot
    _ ≤ plotLeft + slotWidth h.size * h.size :=
      Nat.add_le_add_left (Nat.mul_le_mul_left _ hindex) _
    _ ≤ plotLeft + plotWidth := Nat.add_le_add_left (Nat.div_mul_le_self plotWidth _) _

/-- In slots of one column all bars but the first stand to the right of the vertical axis. -/
theorem inside_of_mem_tail (hslot : slotWidth h.size = 1) {b : Bar} (hb : b ∈ (bars h).tail) :
    plotLeft < b.rect.left ∧ b.rect.left + b.rect.width ≤ plotRight := by
  refine ⟨?_, right_le_of_mem_bars (by omega) (List.mem_of_mem_tail hb)⟩
  obtain ⟨index, hindex⟩ := List.mem_iff_getElem?.mp hb
  rw [List.getElem?_tail, getElem?_bars, Option.map_eq_some_iff] at hindex
  obtain ⟨entry, -, rfl⟩ := hindex
  rw [(rect_barOf_of_le_one (Nat.le_of_eq hslot)).1, hslot]
  omega

/-- As long as slots have columns, no two bars share one, and bars stand in the order of their
labels. -/
theorem pairwise_barRects (hslot : 0 < slotWidth h.size) :
    (barRects h).Pairwise fun r t => r.left + r.width ≤ t.left := by
  have hindices : h.entries.zipIdx.Pairwise fun e f => e.2 < f.2 := by
    refine List.pairwise_map.mp ?_
    rw [List.zipIdx_map_snd]
    exact List.pairwise_lt_range'
  rw [barRects_eq, List.pairwise_map, bars]
  refine List.Pairwise.filter _ (List.pairwise_map.mpr (hindices.imp fun hlt => ?_))
  -- A bar ends within its slot, and a later one begins in a later slot.
  refine Nat.le_trans (right_barOf_le hslot) (Nat.le_trans ?_ le_left_barOf)
  exact Nat.add_le_add_left (Nat.mul_le_mul_left _ hlt) _

end Bars

/-! ## What a pixel shows -/

theorem Rect.contains_iff {r : Rect} {x y : Nat} :
    r.contains x y = true ↔
      (r.left ≤ x ∧ x < r.left + r.width) ∧ r.top ≤ y ∧ y < r.top + r.height := by
  simp only [contains, Bool.and_eq_true, decide_eq_true_eq]

/-- A mark that is painted last. -/
theorem ink_append_singleton (d : Drawing) (m : Mark) (x y : Nat) :
    Drawing.ink (d ++ [m]) x y = m.over x y (d.ink x y) := by
  rw [Drawing.ink, List.foldl_append]
  rfl

/-- What a pixel shows is the ink of a mark in which it lies, unless it shows the background. -/
theorem exists_of_ink_eq {d : Drawing} {x y : Nat} {ink : Ink} (hink : ink ≠ .background)
    (h : d.ink x y = ink) : ∃ m ∈ d, m.ink = ink ∧ m.rect.contains x y = true := by
  induction d using List.reverseRecOn with
  | nil => exact absurd h.symm hink
  | append_singleton d m ih =>
    rw [ink_append_singleton, Mark.over] at h
    split at h
    next hin => exact ⟨m, List.mem_append_right d (List.mem_singleton_self m), h, hin⟩
    next =>
      obtain ⟨m', hm', hin'⟩ := ih h
      exact ⟨m', List.mem_append_left _ hm', hin'⟩

/-- Marks elsewhere leave a pixel as it is. -/
theorem ink_append_of_not_contains (d : Drawing) {later : Drawing} {x y : Nat}
    (h : ∀ m ∈ later, m.rect.contains x y = false) :
    Drawing.ink (d ++ later) x y = d.ink x y := by
  induction later using List.reverseRecOn with
  | nil => rw [List.append_nil]
  | append_singleton later m ih =>
    have hm := h m (List.mem_append_right later (List.mem_singleton_self m))
    rw [← List.append_assoc, ink_append_singleton, Mark.over, hm,
      ih fun m' hm' => h m' (List.mem_append_left _ hm')]
    rfl

/-! ## The axes -/

/-- The name of one axis is below the plot, that of the other above it. -/
theorem captionMarks_beside_plot {m : Mark} (hm : m ∈ captionMarks) :
    plotBottom < m.rect.top ∨ m.rect.top + m.rect.height ≤ plotTop := by
  rcases List.mem_append.mp hm with hm | hm
  · obtain ⟨left, cell, rfl⟩ := exists_of_mem_textMarks hm
    exact .inl (Nat.lt_of_lt_of_le (by decide) (Nat.le_add_right (canvasHeight - 24) _))
  · exact .inr (Nat.le_trans (bottom_le_of_mem_textMarks hm) (by decide))

/-- **The column of the vertical axis shows nothing else**, from the top of the plot to the
horizontal axis. -/
theorem ink_paint_plotLeft (h : Histogram) {y : Nat} (htop : plotTop ≤ y)
    (hbottom : y ≤ plotBottom) : (Raster.paint (drawing h)).ink plotLeft y = .axis := by
  have hcanvas : y < canvasHeight := Nat.lt_of_le_of_lt hbottom (by decide)
  have hcaption : ∀ m ∈ captionMarks, m.rect.contains plotLeft y = false := by
    intro m hm
    have hbeside := captionMarks_beside_plot hm
    rw [Bool.eq_false_iff, ne_eq, Rect.contains_iff]
    omega
  have hcolumn : Rect.contains ⟨plotLeft, plotTop, 1, plotHeight + 1⟩ plotLeft y = true :=
    Rect.contains_iff.mpr
      ⟨⟨Nat.le_refl plotLeft, Nat.lt_succ_self plotLeft⟩, htop, Nat.lt_succ_of_le hbottom⟩
  rw [Raster.ink_paint _ (by decide) hcanvas, drawing, ink_append_of_not_contains _ hcaption,
    axisMarks, List.append_cons, ink_append_singleton, ink_append_singleton, Mark.over, Mark.over,
    if_pos hcolumn, ite_self]

theorem lacks_axis_marks (b : Bar) : Lacks .axis b.marks := by
  intro m hm
  rw [Bar.marks, List.append_assoc, List.mem_append, List.mem_append] at hm
  rcases hm with hm | hm | hm
  · have hbox : Lacks .axis b.boxMarks := by
      unfold Bar.boxMarks
      split
      · simp [Lacks, outlineMarks]
      · exact lacks_nil
    exact hbox m hm
  · exact lacks_textMarks (by decide) _ _ _ _ m hm
  · exact lacks_textMarks (by decide) _ _ _ _ m hm

/-- Next to the axes only the ticks have their ink, to the left of the plot. -/
theorem mem_axisMarks_or_left {h : Histogram} {m : Mark} (hm : m ∈ drawing h)
    (hink : m.ink = .axis) :
    m ∈ axisMarks ∨ m.rect.left + m.rect.width ≤ plotLeft := by
  simp only [drawing, List.mem_append] at hm
  rcases hm with (((hm | hm) | hm) | hm) | hm
  · exact absurd hink (lacks_titleMarks (by decide) m hm)
  · obtain ⟨tick, -, hm⟩ := List.mem_flatMap.mp hm
    simp only [tickMarks, List.mem_append, List.mem_singleton] at hm
    rcases hm with (hm | rfl) | hm
    · exact absurd hink (lacks_gridMarks (by decide) _ _ m hm)
    · exact .inr (Nat.le_refl plotLeft)
    · exact absurd hink (lacks_textMarks (by decide) _ _ _ _ m hm)
  · obtain ⟨b, -, hm⟩ := List.mem_flatMap.mp hm
    exact absurd hink (lacks_axis_marks b m hm)
  · exact .inl hm
  · exact absurd hink (lacks_captionMarks (by decide) m hm)

/-! ## Bars with columns of their own -/

/-- Every bar of a chart has columns of its own. -/
structure OwnColumns (h : Histogram) : Prop where
  /-- No two bars share a column, and bars stand in the order of their labels. -/
  ordered : (barRects h).Pairwise fun r t => r.left + r.width ≤ t.left
  wide : ∀ r ∈ barRects h, 0 < r.width
  inside : ∀ r ∈ barRects h, plotLeft < r.left ∧ r.left + r.width ≤ plotRight
  /-- No pixel of a bar shows an axis. -/
  unhidden : ∀ r ∈ barRects h, ∀ x y, r.contains x y = true →
    (Raster.paint (drawing h)).ink x y ≠ .axis

/-- All pixels of a rectangle show an axis. -/
def IsHidden (h : Histogram) (r : Rect) : Prop :=
  ∀ x y, r.contains x y = true → (Raster.paint (drawing h)).ink x y = .axis

/-- To the right of the vertical axis no bar is hidden. -/
theorem ink_paint_ne_axis {h : Histogram} {r : Rect} {x y : Nat} (hleft : plotLeft < r.left)
    (hright : r.left + r.width ≤ plotRight) (hbottom : r.top + r.height = plotBottom)
    (hin : r.contains x y = true) : (Raster.paint (drawing h)).ink x y ≠ .axis := by
  rw [Rect.contains_iff] at hin
  have hx : x < canvasWidth := by
    simp only [plotRight] at hright
    omega
  have hy : y < canvasHeight := by
    simp only [plotBottom] at hbottom
    omega
  rw [Raster.ink_paint _ hx hy]
  intro hink
  obtain ⟨m, hm, haxis, hcontains⟩ := exists_of_ink_eq (by decide) hink
  rw [Rect.contains_iff] at hcontains
  rcases mem_axisMarks_or_left hm haxis with hm | hticks
  · simp only [axisMarks, List.mem_cons, List.not_mem_nil, or_false] at hm
    rcases hm with rfl | rfl
    · simp only at hcontains
      omega
    · simp only at hcontains
      omega
  · omega

section Columns

variable {h : Histogram}

theorem OwnColumns.left_ne (hown : OwnColumns h) {r : Rect} (hr : r ∈ barRects h) :
    r.left ≠ plotLeft := Nat.ne_of_gt (hown.inside r hr).1

theorem ownColumns_of_barRects_eq_nil (hnil : barRects h = []) : OwnColumns h where
  ordered := hnil ▸ List.Pairwise.nil
  wide _ hr := absurd (hnil ▸ hr) List.not_mem_nil
  inside _ hr := absurd (hnil ▸ hr) List.not_mem_nil
  unhidden _ hr := absurd (hnil ▸ hr) List.not_mem_nil

variable (hcounts : ∀ entry ∈ h.entries, entry.2 ≤ maxUnsigned64)

include hcounts

theorem ownColumns_of_lt_left (hslot : 0 < slotWidth h.size)
    (hleft : ∀ r ∈ barRects h, plotLeft < r.left) : OwnColumns h where
  ordered := pairwise_barRects hslot
  wide r hr := by
    obtain ⟨b, hb, -, rfl⟩ := mem_barRects_iff.mp hr
    obtain ⟨index, entry, -, rfl⟩ := mem_bars_iff.mp hb
    exact width_barOf_pos
  inside r hr := by
    obtain ⟨b, hb, -, rfl⟩ := mem_barRects_iff.mp hr
    exact ⟨hleft _ hr, right_le_of_mem_bars hslot hb⟩
  unhidden r hr x y hin := by
    obtain ⟨b, hb, -, rfl⟩ := mem_barRects_iff.mp hr
    exact ink_paint_ne_axis (hleft _ hr) (right_le_of_mem_bars hslot hb)
      (top_of_mem_bars hcounts hb).2 hin

/-- A bar whose one column is that of the vertical axis. -/
theorem isHidden_of_left {b : Bar} (hb : b ∈ bars h) (hleft : b.rect.left = plotLeft)
    (hwidth : b.rect.width = 1) : IsHidden h b.rect := by
  intro x y hin
  obtain ⟨htop, hbottom⟩ := top_of_mem_bars hcounts hb
  rw [Rect.contains_iff] at hin
  have hx : x = plotLeft := by omega
  rw [hx]
  exact ink_paint_plotLeft h (by omega) (by omega)

/-- The bar of a slot that begins where the plot does and has no more than one column. -/
theorem isHidden_barOf {index : Nat} {entry : String × Nat}
    (hentry : h.entries[index]? = some entry) (hslot : slotWidth h.size ≤ 1)
    (hindex : slotWidth h.size * index = 0) :
    (barOf (axisEnd h.maxCount) (slotWidth h.size) index entry.1 entry.2).rect.left = plotLeft ∧
      IsHidden h (barOf (axisEnd h.maxCount) (slotWidth h.size) index entry.1 entry.2).rect := by
  have hmem := mem_bars_iff.mpr ⟨index, entry, hentry, rfl⟩
  have hleft :
      (barOf (axisEnd h.maxCount) (slotWidth h.size) index entry.1 entry.2).rect.left
        = plotLeft := by
    rw [(rect_barOf_of_le_one hslot).1, hindex, Nat.add_zero]
  exact ⟨hleft, isHidden_of_left hcounts hmem hleft (rect_barOf_of_le_one hslot).2⟩

/-! ## The number of labels -/

/-- Up to 350 labels. -/
theorem ownColumns_of_size_le (hsize : h.size ≤ 350) : OwnColumns h := by
  rcases Nat.eq_zero_or_pos h.size with hzero | hpos
  · refine ownColumns_of_barRects_eq_nil ?_
    rw [barRects_eq, List.eq_nil_of_length_eq_zero ((length_bars h).trans hzero)]
    rfl
  · have hslot := two_le_slotWidth hpos hsize
    refine ownColumns_of_lt_left hcounts (Nat.lt_of_lt_of_le Nat.zero_lt_two hslot) ?_
    intro r hr
    obtain ⟨b, hb, -, rfl⟩ := mem_barRects_iff.mp hr
    obtain ⟨index, entry, -, rfl⟩ := mem_bars_iff.mp hb
    exact Nat.lt_of_le_of_lt (Nat.le_add_right _ _) (lt_left_barOf hslot)

/-- From 351 labels to 700. -/
theorem isHidden_head (hslot : slotWidth h.size = 1) {b : Bar} (hb : (bars h).head? = some b) :
    b.rect.left = plotLeft ∧ IsHidden h b.rect := by
  rw [head?_bars, List.head?_eq_getElem?, Option.map_eq_some_iff] at hb
  obtain ⟨entry, hentry, rfl⟩ := hb
  exact isHidden_barOf hcounts hentry (Nat.le_of_eq hslot) (Nat.mul_zero _)

theorem ownColumns_iff_of_slotWidth_eq_one (hslot : slotWidth h.size = 1) :
    OwnColumns h ↔ ∀ b, (bars h).head? = some b → b.rect.height = 0 := by
  constructor
  · intro hown b hb
    by_contra hne
    have hr : b.rect ∈ barRects h :=
      mem_barRects_iff.mpr ⟨b, List.mem_of_mem_head? hb, Nat.pos_of_ne_zero hne, rfl⟩
    exact hown.left_ne hr (isHidden_head hcounts hslot hb).1
  · intro hfirst
    refine ownColumns_of_lt_left hcounts (by omega) fun r hr => ?_
    obtain ⟨b, hb, hheight, rfl⟩ := mem_barRects_iff.mp hr
    -- The first bar has no height, and the others stand to the right of it.
    cases hbars : bars h with
    | nil => exact absurd (hbars ▸ hb) List.not_mem_nil
    | cons first rest =>
      rw [hbars] at hb hfirst
      rcases List.mem_cons.mp hb with rfl | hrest
      · exact absurd (hfirst b rfl) (Nat.ne_of_gt hheight)
      · exact (inside_of_mem_tail hslot (by rwa [hbars])).1

/-- From 701 labels on. -/
theorem isHidden_of_slotWidth_eq_zero (hslot : slotWidth h.size = 0) {r : Rect}
    (hr : r ∈ barRects h) : r.left = plotLeft ∧ IsHidden h r := by
  obtain ⟨b, hb, -, rfl⟩ := mem_barRects_iff.mp hr
  obtain ⟨index, entry, hentry, rfl⟩ := mem_bars_iff.mp hb
  exact isHidden_barOf hcounts hentry (by omega) (by rw [hslot, Nat.zero_mul])

theorem ownColumns_iff_of_slotWidth_eq_zero (hslot : slotWidth h.size = 0) :
    OwnColumns h ↔ barRects h = [] := by
  refine ⟨fun hown => ?_, ownColumns_of_barRects_eq_nil⟩
  rw [List.eq_nil_iff_forall_not_mem]
  exact fun r hr => hown.left_ne hr (isHidden_of_slotWidth_eq_zero hcounts hslot hr).1

end Columns

/-- **The columns of bars by the number of labels.** There is a bar for each label, in the order of
the labels, and those that have a height are filled. Up to 350 labels every filled bar has columns
of its own. From 351 to 700 no two share a column, but the vertical axis hides the first bar, and
only that one. From 701 on it hides them all. -/
theorem barRects_columns (h : Histogram) (hcounts : ∀ entry ∈ h.entries, entry.2 ≤ maxUnsigned64) :
    (bars h).map (fun b => (b.label, b.count)) = h.entries ∧
    barRects h = ((bars h).filter fun b => 0 < b.rect.height).map Bar.rect ∧
    (h.size ≤ 350 → OwnColumns h) ∧
    (350 < h.size → h.size ≤ 700 →
      (barRects h).Pairwise (fun r t => r.left + r.width ≤ t.left) ∧
      (∀ b, (bars h).head? = some b → IsHidden h b.rect) ∧
      (∀ b ∈ (bars h).tail, plotLeft < b.rect.left ∧ b.rect.left + b.rect.width ≤ plotRight) ∧
      (OwnColumns h ↔ ∀ b, (bars h).head? = some b → b.rect.height = 0)) ∧
    (700 < h.size →
      (∀ r ∈ barRects h, IsHidden h r) ∧ (OwnColumns h ↔ barRects h = [])) := by
  refine ⟨map_bars h, barRects_eq h, ownColumns_of_size_le hcounts, fun hlow hhigh => ?_,
    fun hmany => ?_⟩
  · have hslot := slotWidth_eq_one hlow hhigh
    refine ⟨pairwise_barRects (by omega), fun b hb => ?_, fun b => inside_of_mem_tail hslot,
      ownColumns_iff_of_slotWidth_eq_one hcounts hslot⟩
    exact (isHidden_head hcounts hslot hb).2
  · have hslot := slotWidth_eq_zero hmany
    refine ⟨fun r hr => ?_, ownColumns_iff_of_slotWidth_eq_zero hcounts hslot⟩
    exact (isHidden_of_slotWidth_eq_zero hcounts hslot hr).2

/-! ## Many labels -/

/-- The labels `0`, `1`, `2` and so on. -/
def numbered (size : Nat) (count : Nat → Nat) : Histogram where
  entries := (List.range size).map fun i => (toString i, count i)
  nodup := by
    rw [List.map_map]
    exact List.Nodup.map Number.toString_injective List.nodup_range

theorem size_numbered (size : Nat) (count : Nat → Nat) : (numbered size count).size = size :=
  (List.length_map _).trans List.length_range

theorem le_of_mem_numbered {size : Nat} {count : Nat → Nat}
    (hcount : ∀ i, count i ≤ maxUnsigned64) :
    ∀ entry ∈ (numbered size count).entries, entry.2 ≤ maxUnsigned64 := by
  intro entry he
  obtain ⟨i, -, rfl⟩ := List.mem_map.mp he
  exact hcount i

/-- The most labels whose slots have two columns, one label more, and all outcomes of ten
qubits. -/
theorem barRects_columns_numbered :
    let h (size : Nat) := numbered size fun _ => 1
    (∀ size, ∀ entry ∈ (h size).entries, entry.2 ≤ maxUnsigned64) ∧
      OwnColumns (h 350) ∧ ¬OwnColumns (h 351) ∧
      (barRects (h 1024)).length = 1024 ∧ ∀ r ∈ barRects (h 1024), IsHidden (h 1024) r := by
  intro h
  have hcounts : ∀ size, ∀ entry ∈ (h size).entries, entry.2 ≤ maxUnsigned64 := fun size =>
    le_of_mem_numbered fun _ => by decide
  have hsize (size : Nat) : (h size).size = size := size_numbered size _
  obtain ⟨-, -, hfew, -⟩ := barRects_columns (h 350) (hcounts 350)
  obtain ⟨-, -, -, hsome, -⟩ := barRects_columns (h 351) (hcounts 351)
  obtain ⟨-, -, -, -, hmany⟩ := barRects_columns (h 1024) (hcounts 1024)
  refine ⟨hcounts, hfew (Nat.le_of_eq (hsize 350)), fun hown => ?_, ?_, ?_⟩
  · obtain ⟨-, -, -, hiff⟩ := hsome (by rw [hsize]; decide) (by rw [hsize]; decide)
    exact absurd (hiff.mp hown _ (head?_bars _)) (by decide +kernel)
  · rw [barRects_eq]
    decide +kernel
  · exact (hmany (by rw [hsize]; decide)).1

/-- Of 351 labels only the first was counted. Its bar is the only one, and the vertical axis is
painted over it. -/
theorem first_bar_hidden :
    let h := numbered 351 fun i => if i = 0 then 1 else 0
    barRects h = [⟨plotLeft, 340, 1, 90⟩] ∧
      (∀ y, 340 ≤ y → y < 430 → (Raster.paint (drawing h)).ink plotLeft y = .axis) ∧
      ¬∀ h : Histogram, h.entries ≠ [] →
        (∀ entry ∈ h.entries, entry.2 ≤ maxUnsigned64) → OwnColumns h := by
  intro h
  have hrects : barRects h = [⟨plotLeft, 340, 1, 90⟩] := by
    rw [barRects_eq]
    decide +kernel
  have hcounts : ∀ entry ∈ h.entries, entry.2 ≤ maxUnsigned64 :=
    le_of_mem_numbered fun i => by split <;> decide
  refine ⟨hrects, fun y htop hbottom => ?_, fun hall => ?_⟩
  · exact ink_paint_plotLeft h (Nat.le_trans (by decide) htop) (Nat.le_of_lt hbottom)
  · have hown := hall h (List.ne_nil_of_length_pos (by decide +kernel)) hcounts
    exact hown.left_ne (hrects ▸ List.mem_singleton_self _) rfl

end QuantumBlocks.Chart
