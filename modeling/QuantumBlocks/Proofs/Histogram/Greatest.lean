import QuantumBlocks.Histogram.Basic

/-!
# The greatest count

The greatest count of a histogram that has a label is the count of one of its labels, and no label
has a greater one.
-/

namespace QuantumBlocks.Histogram

variable {h : Histogram}

theorem maxCount_eq_max? (h : Histogram) :
    h.maxCount = (h.entries.map Prod.snd).max?.getD 0 := by
  rw [maxCount, List.foldl_max, Nat.zero_max]

/-- No label has a greater count. -/
theorem le_maxCount {entry : String × Nat} (he : entry ∈ h.entries) : entry.2 ≤ h.maxCount := by
  rw [maxCount_eq_max?]
  exact List.le_max?_getD_of_mem (List.mem_map_of_mem he)

/-- A label has the greatest count. -/
theorem exists_eq_maxCount (hne : h.entries ≠ []) :
    ∃ entry ∈ h.entries, entry.2 = h.maxCount := by
  rw [maxCount_eq_max?]
  cases hmax : (h.entries.map Prod.snd).max? with
  | none => exact absurd (List.map_eq_nil_iff.mp (List.max?_eq_none_iff.mp hmax)) hne
  | some greatest => exact List.mem_map.mp (List.max?_mem hmax)

theorem maxCount_le {bound : Nat} (hcounts : ∀ entry ∈ h.entries, entry.2 ≤ bound) :
    h.maxCount ≤ bound := by
  rcases Decidable.em (h.entries = []) with hnil | hne
  · rw [maxCount, hnil]
    exact Nat.zero_le _
  · obtain ⟨entry, hentry, hmax⟩ := exists_eq_maxCount hne
    exact hmax ▸ hcounts entry hentry

end QuantumBlocks.Histogram
