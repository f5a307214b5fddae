import QuantumBlocks.Counts.Summary
import QuantumBlocks.Proofs.Counts.Total
import QuantumBlocks.Proofs.Text.ByteOrder

/-!
# The ranking of counts

Ranking rearranges the outcomes and loses none, so a summary lists different outcomes, and some if
there are any. Different outcomes never share a rank, so there is one ranking only, from whatever
order of the outcomes it is made.

* `perm_ranked` — the ranking is a rearrangement
* `nodup_leaders` — the outcomes of a summary are different
* `pairwise_ranked` — each outcome ranks above those after it
* `eq_ranked_of_pairwise` — no other arrangement has this property
-/

namespace QuantumBlocks.Counts

variable (c : Counts)

/-- The outcomes are different. -/
theorem nodup_entries : (c.entries.map Prod.fst).Nodup := by
  rw [List.nodup_iff_pairwise_ne, List.pairwise_map]
  have hascending : c.entries.Pairwise fun a b => a.1 < b.1 := c.ascending
  refine hascending.imp fun {a b} hlt heq => ?_
  rw [heq] at hlt
  exact String.lt_irrefl b.1 hlt

/-- **The ranking is a rearrangement of the outcomes.** -/
theorem perm_ranked : c.ranked.Perm c.entries := List.mergeSort_perm _ _

/-- **The outcomes of a summary are different.** -/
theorem nodup_leaders : (c.leaders.map Prod.fst).Nodup := by
  have hranked : (c.ranked.map Prod.fst).Nodup :=
    (c.perm_ranked.map _).nodup_iff.mpr c.nodup_entries
  exact hranked.sublist ((List.take_sublist _ _).map _)

variable {c}

theorem mem_of_mem_leaders {entry : String × Nat} (h : entry ∈ c.leaders) : entry ∈ c.entries :=
  c.perm_ranked.mem_iff.mp (List.mem_of_mem_take h)

theorem leaders_ne_nil (h : c.entries ≠ []) : c.leaders ≠ [] := by
  intro hnil
  have hlength : c.ranked.length = c.entries.length := c.perm_ranked.length_eq
  have hpos : 0 < c.entries.length := List.length_pos_iff.mpr h
  rw [leaders, List.take_eq_nil_iff, ← List.length_eq_zero_iff, hlength] at hnil
  rcases hnil with hnil | hnil
  · exact absurd hnil (by decide)
  · omega

/-- A summary lists the first five outcomes of the ranking, or all if there are fewer. -/
theorem leaders_eq_take_min (c : Counts) : c.leaders = c.ranked.take (min 5 c.size) := by
  have hlength : c.ranked.length = c.size := c.perm_ranked.length_eq
  rw [leaders, summaryLength, List.take_eq_take_iff, hlength]
  omega

/-! ## One ranking only -/

/-- An outcome ranks above another if it has a greater number, or the same number and lesser
bytes. -/
def RanksAbove (a b : String × Nat) : Prop :=
  b.2 < a.2 ∨ a.2 = b.2 ∧ utf8Bytes a.1 < utf8Bytes b.1

instance (a b : String × Nat) : Decidable (RanksAbove a b) := inferInstanceAs (Decidable (_ ∨ _))

theorem ranksBefore_iff {a b : String × Nat} :
    ranksBefore a b = true ↔ b.2 < a.2 ∨ a.2 = b.2 ∧ a.1 ≤ b.1 := by
  simp [ranksBefore]

theorem ranksBefore_trans (a b c : String × Nat) (hab : ranksBefore a b = true)
    (hbc : ranksBefore b c = true) : ranksBefore a c = true := by
  rw [ranksBefore_iff] at *
  rcases hab with hab | ⟨hab, hab'⟩
  · rcases hbc with hbc | ⟨hbc, -⟩
    · exact Or.inl (Nat.lt_trans hbc hab)
    · exact Or.inl (hbc ▸ hab)
  · rcases hbc with hbc | ⟨hbc, hbc'⟩
    · exact Or.inl (hab ▸ hbc)
    · exact Or.inr ⟨hab.trans hbc, String.le_trans hab' hbc'⟩

theorem ranksBefore_total (a b : String × Nat) :
    (ranksBefore a b || ranksBefore b a) = true := by
  rw [Bool.or_eq_true, ranksBefore_iff, ranksBefore_iff]
  rcases Nat.lt_trichotomy a.2 b.2 with hlt | heq | hgt
  · exact Or.inr (Or.inl hlt)
  · rcases String.le_total a.1 b.1 with hle | hle
    · exact Or.inl (Or.inr ⟨heq, hle⟩)
    · exact Or.inr (Or.inr ⟨heq.symm, hle⟩)
  · exact Or.inl (Or.inl hgt)

/-- Of two different outcomes the one that ranks before ranks above. -/
theorem ranksAbove_of_ranksBefore {a b : String × Nat} (h : ranksBefore a b = true)
    (hne : a.1 ≠ b.1) : RanksAbove a b := by
  rcases ranksBefore_iff.mp h with hlt | ⟨heq, hle⟩
  · exact Or.inl hlt
  · refine Or.inr ⟨heq, utf8Bytes_lt_iff.mpr ?_⟩
    by_contra hnot
    exact hne (String.le_antisymm hle (String.not_lt.mp hnot))

theorem RanksAbove.asymm {a b : String × Nat} (hab : RanksAbove a b) (hba : RanksAbove b a) :
    False := by
  rcases hab with hab | ⟨hab, hab'⟩
  · rcases hba with hba | ⟨hba, -⟩
    · omega
    · omega
  · rcases hba with hba | ⟨-, hba'⟩
    · omega
    · exact List.lt_asymm hab' hba'

/-- Ranking outcomes in any order puts each above those after it, if no two are the same. -/
theorem pairwise_mergeSort_of_nodup {entries : List (String × Nat)}
    (h : (entries.map Prod.fst).Nodup) : (entries.mergeSort ranksBefore).Pairwise RanksAbove := by
  have hsorted := List.pairwise_mergeSort ranksBefore_trans ranksBefore_total entries
  have hdistinct : ((entries.mergeSort ranksBefore).map Prod.fst).Nodup :=
    ((List.mergeSort_perm entries ranksBefore).map _).nodup_iff.mpr h
  rw [List.nodup_iff_pairwise_ne, List.pairwise_map] at hdistinct
  exact hsorted.imp₂ (fun _ _ hbefore hne => ranksAbove_of_ranksBefore hbefore hne) hdistinct

/-- **Each outcome of the ranking ranks above those after it.** -/
theorem pairwise_ranked (c : Counts) : c.ranked.Pairwise RanksAbove :=
  pairwise_mergeSort_of_nodup c.nodup_entries

/-- **There is one ranking only.** -/
theorem eq_ranked_of_pairwise {ranking : List (String × Nat)} (hperm : ranking.Perm c.entries)
    (hranking : ranking.Pairwise RanksAbove) : ranking = c.ranked :=
  List.Perm.eq_of_pairwise (fun _ _ _ _ hab hba => (hab.asymm hba).elim) hranking
    c.pairwise_ranked (hperm.trans c.perm_ranked.symm)

/-- The ranking is the same from whatever order of the outcomes it is made. -/
theorem mergeSort_eq_ranked {enumeration : List (String × Nat)}
    (h : enumeration.Perm c.entries) : enumeration.mergeSort ranksBefore = c.ranked :=
  eq_ranked_of_pairwise ((List.mergeSort_perm _ _).trans h)
    (pairwise_mergeSort_of_nodup ((h.map _).nodup_iff.mpr c.nodup_entries))

end QuantumBlocks.Counts
