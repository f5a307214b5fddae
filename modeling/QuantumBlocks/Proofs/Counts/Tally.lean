import QuantumBlocks.Proofs.Counts.Ranking
import Mathlib.Data.List.Dedup
import Mathlib.Algebra.Order.Group.Nat
import Mathlib.Algebra.BigOperators.Group.List.Basic

/-!
# Counts as tallies

Counts hold for each outcome of a list the sum of the numbers that the list gives for it, and hold
no other outcome. So the order of the list does not matter.

* `tally_addEntry` — adding to an outcome adds to its tally alone
* `Counts.eq_of_tally_eq` — counts of the same outcomes with the same tallies are the same
* `Counts.tally_ofList`, `Counts.size_ofList`, `Counts.total_ofList` — the counts of a list
* `Counts.ofList_eq_of_perm` — they do not depend on its order
-/

namespace QuantumBlocks

open Json

/-! ## Tallies of a list -/

/-- The sum of the numbers that a list gives for an outcome. -/
def tally (outcome : String) (pairs : List (String × Nat)) : Nat :=
  ((pairs.filter fun pair => pair.1 = outcome).map Prod.snd).sum

theorem tally_cons (outcome : String) (pair : String × Nat) (pairs : List (String × Nat)) :
    tally outcome (pair :: pairs)
      = (if pair.1 = outcome then pair.2 else 0) + tally outcome pairs := by
  by_cases h : pair.1 = outcome
  · simp [tally, h]
  · simp [tally, h]

theorem tally_of_not_mem {outcome : String} {pairs : List (String × Nat)}
    (h : outcome ∉ pairs.map Prod.fst) : tally outcome pairs = 0 := by
  have hnone : pairs.filter (fun pair => pair.1 = outcome) = [] := by
    rw [List.filter_eq_nil_iff]
    intro pair hpair hsame
    exact h (List.mem_map.mpr ⟨pair, hpair, of_decide_eq_true hsame⟩)
  rw [tally, hnone]
  rfl

theorem tally_perm {pairs others : List (String × Nat)} (h : pairs.Perm others)
    (outcome : String) : tally outcome pairs = tally outcome others :=
  ((h.filter _).map _).sum_eq

/-- Among different outcomes the number of each is its tally. -/
theorem mem_iff_eq_tally {entries : List (String × Nat)} (h : (entries.map Prod.fst).Nodup)
    {entry : String × Nat} :
    entry ∈ entries ↔ entry.1 ∈ entries.map Prod.fst ∧ entry.2 = tally entry.1 entries := by
  induction entries with
  | nil => simp
  | cons head rest ih =>
    rw [List.map_cons, List.nodup_cons] at h
    obtain ⟨hnew, hrest⟩ := h
    rw [List.mem_cons, List.map_cons, List.mem_cons, tally_cons, ih hrest]
    by_cases hsame : head.1 = entry.1
    · -- The outcome does not come again, so its tally is the number at the head.
      rw [hsame] at hnew
      rw [if_pos hsame, tally_of_not_mem hnew, Nat.add_zero]
      constructor
      · rintro (rfl | ⟨hmem, -⟩)
        · exact ⟨Or.inl rfl, rfl⟩
        · exact absurd hmem hnew
      · rintro ⟨-, hnumber⟩
        exact Or.inl (Prod.ext hsame.symm hnumber)
    · rw [if_neg hsame, Nat.zero_add]
      constructor
      · rintro (rfl | ⟨hmem, hnumber⟩)
        · exact absurd rfl hsame
        · exact ⟨Or.inr hmem, hnumber⟩
      · rintro ⟨hhead | hmem, hnumber⟩
        · exact absurd hhead.symm hsame
        · exact Or.inr ⟨hmem, hnumber⟩

/-! ## Adding to an outcome -/

/-- **Adding to an outcome adds to its tally alone.** -/
theorem tally_addEntry (outcome other : String) (n : Nat) (entries : List (String × Nat)) :
    tally outcome (addEntry other n entries)
      = tally outcome entries + if other = outcome then n else 0 := by
  induction entries with
  | nil => rw [addEntry, tally_cons, Nat.add_comm]
  | cons head rest ih =>
    obtain ⟨first, old⟩ := head
    unfold addEntry
    split
    · rw [tally_cons, Nat.add_comm]
    · split
      · next hsame =>
        rw [tally_cons, tally_cons, hsame]
        by_cases h : first = outcome
        · simp only [if_pos h]
          omega
        · simp only [if_neg h]
          omega
      · rw [tally_cons, tally_cons, ih]
        omega

theorem mem_outcomes_addEntry (outcome other : String) (n : Nat)
    (entries : List (String × Nat)) :
    outcome ∈ (addEntry other n entries).map Prod.fst
      ↔ outcome = other ∨ outcome ∈ entries.map Prod.fst := by
  induction entries with
  | nil => simp [addEntry]
  | cons head rest ih =>
    obtain ⟨first, old⟩ := head
    unfold addEntry
    split
    · rw [List.map_cons, List.mem_cons]
    · split
      · next hsame => simp [hsame]
      · rw [List.map_cons, List.mem_cons, ih, List.map_cons, List.mem_cons, or_left_comm]

namespace Counts

/-- The number of an outcome is its tally. -/
theorem get_eq_tally (c : Counts) (outcome : String) :
    c.get outcome = tally outcome c.entries := by
  rw [get, member?]
  cases hfind : c.entries.find? (fun entry => entry.1 = outcome) with
  | none =>
    rw [List.find?_eq_none] at hfind
    have hnone : outcome ∉ c.entries.map Prod.fst := by
      intro hm
      obtain ⟨entry, he, hsame⟩ := List.mem_map.mp hm
      exact hfind entry he (decide_eq_true hsame)
    rw [tally_of_not_mem hnone]
    rfl
  | some entry =>
    have hsame : entry.1 = outcome := by simpa using List.find?_some hfind
    have hentry := (mem_iff_eq_tally c.nodup_entries).mp (List.mem_of_find?_eq_some hfind)
    rw [← hsame, ← hentry.2]
    rfl

/-- **Counts of the same outcomes with the same tallies are the same.** -/
theorem eq_of_tally_eq {c d : Counts}
    (houtcomes : ∀ outcome, outcome ∈ c.entries.map Prod.fst ↔ outcome ∈ d.entries.map Prod.fst)
    (htallies : ∀ outcome, tally outcome c.entries = tally outcome d.entries) : c = d := by
  have hmem (entry : String × Nat) : entry ∈ c.entries ↔ entry ∈ d.entries := by
    rw [mem_iff_eq_tally c.nodup_entries, mem_iff_eq_tally d.nodup_entries, houtcomes, htallies]
  have hperm : c.entries.Perm d.entries := (List.perm_ext_iff_of_nodup
    (c.nodup_entries.of_map _) (d.nodup_entries.of_map _)).mpr hmem
  -- Both stand in ascending order, which leaves one arrangement of the same entries.
  have hentries : c.entries = d.entries := by
    refine List.Perm.eq_of_pairwise ?_ c.ascending d.ascending hperm
    intro a b _ _ hab hba
    exact absurd hba (String.lt_asymm hab)
  cases c
  cases d
  cases hentries
  rfl

/-! ## Inserting a list -/

/-- Counts after further pairs are inserted one after the other. -/
def insertAll (c : Counts) (pairs : List (String × Nat)) : Counts :=
  pairs.foldl (fun c pair => c.insert pair.1 pair.2) c

theorem tally_insertAll (c : Counts) (pairs : List (String × Nat)) (outcome : String) :
    tally outcome (c.insertAll pairs).entries = tally outcome c.entries + tally outcome pairs := by
  induction pairs generalizing c with
  | nil => rfl
  | cons pair rest ih =>
    have hinsert : tally outcome (c.insert pair.1 pair.2).entries
        = tally outcome c.entries + if pair.1 = outcome then pair.2 else 0 :=
      tally_addEntry outcome pair.1 pair.2 c.entries
    rw [insertAll, List.foldl_cons, ← insertAll, ih, hinsert, tally_cons, Nat.add_assoc]

theorem mem_outcomes_insertAll (c : Counts) (pairs : List (String × Nat)) (outcome : String) :
    outcome ∈ (c.insertAll pairs).entries.map Prod.fst
      ↔ outcome ∈ c.entries.map Prod.fst ∨ outcome ∈ pairs.map Prod.fst := by
  induction pairs generalizing c with
  | nil => simp [insertAll]
  | cons pair rest ih =>
    have hinsert : outcome ∈ (c.insert pair.1 pair.2).entries.map Prod.fst
        ↔ outcome = pair.1 ∨ outcome ∈ c.entries.map Prod.fst :=
      mem_outcomes_addEntry outcome pair.1 pair.2 c.entries
    rw [insertAll, List.foldl_cons, ← insertAll, ih, hinsert, List.map_cons, List.mem_cons,
      or_assoc, or_left_comm]

theorem total_insertAll (c : Counts) (pairs : List (String × Nat)) :
    (c.insertAll pairs).total = c.total + (pairs.map Prod.snd).sum := by
  induction pairs generalizing c with
  | nil => rfl
  | cons pair rest ih =>
    rw [insertAll, List.foldl_cons, ← insertAll, ih, total_insert, List.map_cons, List.sum_cons,
      Nat.add_assoc]

/-! ## The counts of a list -/

variable (pairs : List (String × Nat))

theorem tally_ofList (outcome : String) :
    tally outcome (ofList pairs).entries = tally outcome pairs := by
  have htally := tally_insertAll empty pairs outcome
  rw [show tally outcome empty.entries = 0 from rfl, Nat.zero_add] at htally
  exact htally

theorem mem_outcomes_ofList (outcome : String) :
    outcome ∈ (ofList pairs).entries.map Prod.fst ↔ outcome ∈ pairs.map Prod.fst := by
  have hmem := mem_outcomes_insertAll empty pairs outcome
  rw [show empty.entries = [] from rfl, List.map_nil, List.mem_nil_iff, false_or] at hmem
  exact hmem

theorem total_ofList : (ofList pairs).total = (pairs.map Prod.snd).sum := by
  have htotal := total_insertAll empty pairs
  rw [total_empty, Nat.zero_add] at htotal
  exact htotal

theorem size_ofList : (ofList pairs).size = (pairs.map Prod.fst).dedup.length := by
  have hperm : ((ofList pairs).entries.map Prod.fst).Perm (pairs.map Prod.fst).dedup := by
    rw [List.perm_ext_iff_of_nodup (ofList pairs).nodup_entries (List.nodup_dedup _)]
    intro outcome
    rw [mem_outcomes_ofList, List.mem_dedup]
  have hlength : ((ofList pairs).entries.map Prod.fst).length = (ofList pairs).entries.length :=
    List.length_map _
  rw [size, ← hlength, hperm.length_eq]

variable {pairs}

/-- **The counts of a list do not depend on its order.** -/
theorem ofList_eq_of_perm {others : List (String × Nat)} (h : others.Perm pairs) :
    ofList others = ofList pairs := by
  refine eq_of_tally_eq ?_ ?_
  · intro outcome
    rw [mem_outcomes_ofList, mem_outcomes_ofList, (h.map _).mem_iff]
  · intro outcome
    rw [tally_ofList, tally_ofList, tally_perm h]

/-- What was inserted so far is no more than what is inserted in the end. -/
theorem total_ofList_front_le {front : List (String × Nat)} (h : front <+: pairs) :
    (ofList front).total ≤ (pairs.map Prod.snd).sum := by
  obtain ⟨back, rfl⟩ := h
  rw [total_ofList, List.map_append, List.sum_append]
  exact Nat.le_add_right _ _

end Counts

end QuantumBlocks
