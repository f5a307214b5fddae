import QuantumBlocks.Proofs.Counts.Tally
import QuantumBlocks.Proofs.Histogram.Summary

/-!
# Counts, ranking and summary of a list

Counts are made from a list of outcomes with numbers. They sum the numbers of equal outcomes,
whatever the order of the list; their ranking and their summary are the same in whatever order the
outcomes are enumerated; and the summary lists the outcomes of the highest ranks.

* `summaryOf_eq_summary` — the summary does not depend on the order of enumeration
* `le_of_mem_leaders` — no outcome that is not listed has a greater number than a listed one
* `ofList_canonical` — all of this for the counts of a list
-/

namespace QuantumBlocks.Counts

variable {c : Counts}

/-! ## Summaries -/

/-- The summary of outcomes that are enumerated in any order. -/
def summaryOf (enumeration : List (String × Nat)) (total : Nat) : String :=
  if enumeration.isEmpty then "No results"
  else String.intercalate ", "
    (((enumeration.mergeSort ranksBefore).take summaryLength).map (summaryEntry total))

/-- **The summary does not depend on the order in which the outcomes are enumerated.** -/
theorem summaryOf_eq_summary {enumeration : List (String × Nat)}
    (h : enumeration.Perm c.entries) (total : Nat) :
    summaryOf enumeration total = c.summary total := by
  have hempty : enumeration.isEmpty = c.isEmpty := by
    rw [isEmpty, Bool.eq_iff_iff, List.isEmpty_iff, List.isEmpty_iff]
    constructor
    · rintro rfl
      exact h.nil_eq.symm
    · intro hnil
      rw [hnil] at h
      exact h.eq_nil
  rw [summaryOf, summary, leaders, hempty, mergeSort_eq_ranked h]

theorem summary_eq_noResults_iff (c : Counts) (total : Nat) :
    c.summary total = "No results" ↔ c.entries = [] := by
  constructor
  · intro h
    by_contra hne
    have hempty : ¬c.isEmpty = true := by
      rw [isEmpty, List.isEmpty_iff]
      exact hne
    obtain ⟨front, tail, hbar⟩ := exists_flatMap_summaryPieces_eq total (leaders_ne_nil hne)
    rw [summary, if_neg hempty, ← String.toList_inj, toList_intercalate_summaryEntry, hbar] at h
    exact absurd (List.cons.inj h).1 (by decide)
  · intro h
    rw [summary, isEmpty, h]
    rfl

/-- No outcome that is not listed has a greater number than a listed one. -/
theorem le_of_mem_leaders {listed other : String × Nat} (hlisted : listed ∈ c.leaders)
    (hother : other ∈ c.entries) (hnot : other ∉ c.leaders) : other.2 ≤ listed.2 := by
  have hrest : other ∈ c.ranked.drop summaryLength := by
    have hranked : other ∈ c.ranked := c.perm_ranked.mem_iff.mpr hother
    rw [← List.take_append_drop summaryLength c.ranked, List.mem_append] at hranked
    rcases hranked with htake | hdrop
    · exact absurd htake hnot
    · exact hdrop
  have hpairwise := c.pairwise_ranked
  rw [← List.take_append_drop summaryLength c.ranked, List.pairwise_append] at hpairwise
  rcases hpairwise.2.2 listed hlisted other hrest with hlt | ⟨heq, -⟩
  · exact Nat.le_of_lt hlt
  · exact Nat.le_of_eq heq.symm

/-! ## The counts of a list -/

/-- Counts tally a list: they give every outcome the sum of its numbers, their total is the sum of
all numbers, and they have one entry for each outcome of the list. -/
structure Tallies (c : Counts) (pairs : List (String × Nat)) : Prop where
  get_eq : ∀ outcome, c.get outcome = tally outcome pairs
  total_eq : c.total = (pairs.map Prod.snd).sum
  size_eq : c.size = (pairs.map Prod.fst).dedup.length

theorem tallies_ofList (pairs : List (String × Nat)) : (ofList pairs).Tallies pairs where
  get_eq outcome := by rw [get_eq_tally, tally_ofList]
  total_eq := total_ofList pairs
  size_eq := size_ofList pairs

/-- **Counts, ranking and summary of a list.** The counts tally the list, and so do the counts made
on the way tally what was inserted so far, no number of theirs leaving 64 bits; inserting the rest
of a list after its front counts the list, and every order of the list gives the same counts. In
whatever order the outcomes are enumerated, ranking and summary are the same: the ranking
rearranges the outcomes, each ranking above those after it, and the summary lists the first five
of them, or all if there are fewer, so that no outcome left out has a greater number than a listed
one. -/
theorem ofList_canonical {pairs : List (String × Nat)}
    (hsum : (pairs.map Prod.snd).sum < 2 ^ 64) (total : Nat) :
    (∀ front, front <+: pairs →
      (ofList front).Tallies front ∧ (ofList front).total < 2 ^ 64) ∧
    (∀ front back, pairs = front ++ back → (ofList front).insertAll back = ofList pairs) ∧
    (∀ others, others.Perm pairs → ofList others = ofList pairs) ∧
    (∀ enumeration, enumeration.Perm (ofList pairs).entries →
      enumeration.mergeSort ranksBefore = (ofList pairs).ranked ∧
      summaryOf enumeration total = (ofList pairs).summary total) ∧
    (ofList pairs).ranked.Perm (ofList pairs).entries ∧
    (ofList pairs).ranked.Pairwise RanksAbove ∧
    ((ofList pairs).summary total = "No results" ↔ (ofList pairs).entries = []) ∧
    ((ofList pairs).entries ≠ [] → (ofList pairs).summary total = String.intercalate ", "
      (((ofList pairs).ranked.take (min 5 (ofList pairs).size)).map (summaryEntry total))) ∧
    (∀ listed ∈ (ofList pairs).ranked.take (min 5 (ofList pairs).size),
      ∀ other ∈ (ofList pairs).entries,
        other ∉ (ofList pairs).ranked.take (min 5 (ofList pairs).size) → other.2 ≤ listed.2) := by
  refine ⟨?_, ?_, ?_, ?_, perm_ranked _, pairwise_ranked _, summary_eq_noResults_iff _ _, ?_, ?_⟩
  · intro front hfront
    exact ⟨tallies_ofList front, (total_ofList_front_le hfront).trans_lt hsum⟩
  · rintro front back rfl
    rw [ofList, ofList, insertAll, List.foldl_append]
  · intro others hothers
    exact ofList_eq_of_perm hothers
  · intro enumeration henumeration
    exact ⟨mergeSort_eq_ranked henumeration, summaryOf_eq_summary henumeration total⟩
  · intro hne
    rw [← leaders_eq_take_min, summary, if_neg]
    rw [isEmpty, List.isEmpty_iff]
    exact hne
  · intro listed hlisted other hother hnot
    rw [← leaders_eq_take_min] at hlisted hnot
    exact le_of_mem_leaders hlisted hother hnot

/-- Eight pairs for seven outcomes, of which four have the same number around the fifth rank. -/
def tiedPairs : List (String × Nat) :=
  [("101", 2), ("000", 7), ("011", 4), ("101", 2), ("110", 4), ("001", 9), ("111", 0), ("010", 4)]

/-- Of the four tied outcomes the one with the greatest bytes is not listed, in whatever order the
pairs are given and the outcomes are enumerated. -/
theorem ofList_canonical_tied :
    (tiedPairs.map Prod.snd).sum < 2 ^ 64 ∧
      (ofList tiedPairs).get "101" = 4 ∧ (ofList tiedPairs).size = 7 ∧
      ofList tiedPairs.reverse = ofList tiedPairs ∧
      (ofList tiedPairs).ranked.take 5
        = [("001", 9), ("000", 7), ("010", 4), ("011", 4), ("101", 4)] ∧
      (ofList tiedPairs).entries.reverse.mergeSort ranksBefore = (ofList tiedPairs).ranked ∧
      summaryOf (ofList tiedPairs).entries.reverse 34 = (ofList tiedPairs).summary 34 ∧
      (ofList tiedPairs).summary 34 ≠ "No results" := by
  have hsum : (tiedPairs.map Prod.snd).sum < 2 ^ 64 := by decide
  obtain ⟨htallies, -, hperm, henumeration, -, -, hnone, -⟩ :=
    ofList_canonical hsum 34
  obtain ⟨hget, -, hsize⟩ := (htallies tiedPairs (List.prefix_refl _)).1
  obtain ⟨hranking, hsummary⟩ := henumeration _ (List.reverse_perm _)
  have hranked : [("001", 9), ("000", 7), ("010", 4), ("011", 4), ("101", 4), ("110", 4),
      ("111", 0)] = (ofList tiedPairs).ranked := eq_ranked_of_pairwise (by decide) (by decide)
  have hsome : (ofList tiedPairs).entries ≠ [] := by decide
  exact ⟨hsum, (hget "101").trans (by decide), hsize.trans (by decide),
    hperm _ (List.reverse_perm _), by rw [← hranked]; rfl, hranking, hsummary,
    fun h => hsome (hnone.mp h)⟩

end QuantumBlocks.Counts
