import QuantumBlocks.Counts.Basic
import Mathlib.Algebra.GroupWithZero.Nat

/-!
# Totals of counts

Adding to the number of an outcome adds to the total, whether the outcome was seen before or not.
-/

namespace QuantumBlocks

theorem sum_addEntry (outcome : String) (n : Nat) (entries : List (String × Nat)) :
    ((addEntry outcome n entries).map Prod.snd).sum = (entries.map Prod.snd).sum + n := by
  induction entries with
  | nil => simp [addEntry]
  | cons head rest ih =>
    unfold addEntry
    split
    · simp only [List.map_cons, List.sum_cons]
      omega
    · split
      · simp only [List.map_cons, List.sum_cons]
        omega
      · simp only [List.map_cons, List.sum_cons, ih]
        omega

namespace Counts

theorem total_eq_sum (c : Counts) : c.total = (c.entries.map Prod.snd).sum := by
  rw [total, List.sum_eq_foldr, List.foldr_map]

theorem total_empty : empty.total = 0 := rfl

theorem total_insert (c : Counts) (outcome : String) (n : Nat) :
    (c.insert outcome n).total = c.total + n := by
  rw [total_eq_sum, total_eq_sum]
  exact sum_addEntry outcome n c.entries

/-- No outcome has more than all together. -/
theorem le_total {c : Counts} {entry : String × Nat} (h : entry ∈ c.entries) :
    entry.2 ≤ c.total := by
  obtain ⟨front, back, hentries⟩ := List.append_of_mem h
  rw [total_eq_sum, hentries, List.map_append, List.map_cons, List.sum_append, List.sum_cons]
  omega

theorem entries_ne_nil {c : Counts} (h : 1 ≤ c.total) : c.entries ≠ [] := by
  intro hnil
  rw [total, hnil] at h
  exact absurd h (by decide)

/-- What holds of all outcomes seen before and of a new one holds of all outcomes together. -/
theorem forall_insert {P : String → Prop} {c : Counts} {outcome : String} {n : Nat}
    (hc : ∀ entry ∈ c.entries, P entry.1) (h : P outcome) :
    ∀ entry ∈ (c.insert outcome n).entries, P entry.1 := by
  intro entry he
  rcases mem_addEntry he with heq | he
  · rw [heq]
    exact h
  · exact hc entry he

end Counts

end QuantumBlocks
