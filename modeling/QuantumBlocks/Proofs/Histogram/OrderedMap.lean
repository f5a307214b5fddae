import QuantumBlocks.Proofs.Histogram.Grammar
import QuantumBlocks.Proofs.Histogram.Greatest
import QuantumBlocks.Proofs.Histogram.Pieces
import Mathlib.Data.Finset.Card

/-!
# A histogram is an ordered map

A histogram of pairs has the label of each pair once, in the order in which the labels first
appear, with the count that was given last. It does not matter how the pairs come in: one by one
into the histogram there is, all together, or as the members of a JSON object.

* `Histogram.get?_insert` — setting the count of a label changes the count of no other one
* `IsOrderedMapOf.snoc` — one more pair
* `isOrderedMapOf_ofList` — all pairs
* `histogram_isOrderedMap` — all ways in which the pairs come in
-/

namespace QuantumBlocks

open Json

/-! ## What is given -/

/-- A pair gives a label this count, and no later pair gives that label any. -/
def GivenLast (pairs : List (String × Nat)) (label : String) (count : Nat) : Prop :=
  ∃ front back, pairs = front ++ (label, count) :: back ∧ label ∉ back.map Prod.fst

/-- A label stands before another one where the labels of the pairs first appear. -/
def AppearsBefore (pairs : List (String × Nat)) (a b : String) : Prop :=
  (pairs.map Prod.fst).idxOf a < (pairs.map Prod.fst).idxOf b

/-- A histogram is the ordered map of pairs. -/
structure IsOrderedMapOf (pairs : List (String × Nat)) (h : Histogram) : Prop where
  nodup : h.labels.Nodup
  order : h.labels.Pairwise (AppearsBefore pairs)
  mem_labels : ∀ label, label ∈ h.labels ↔ label ∈ pairs.map Prod.fst
  get?_eq_some : ∀ label count, h.get? label = some count ↔ GivenLast pairs label count
  get?_eq_none : ∀ label, h.get? label = none ↔ label ∉ pairs.map Prod.fst
  size : h.size = (pairs.map Prod.fst).toFinset.card
  le_maxCount : ∀ label count, GivenLast pairs label count → count ≤ h.maxCount
  exists_maxCount : pairs ≠ [] → ∃ label, GivenLast pairs label h.maxCount
  maxCount_nil : pairs = [] → h.maxCount = 0

/-! ## One more pair -/

theorem member?_setEntry (label other : String) (count : Nat) (entries : List (String × Nat)) :
    member? other (setEntry label count entries)
      = if other = label then some count else member? other entries := by
  induction entries with
  | nil =>
    rw [setEntry, member?, List.find?_singleton]
    by_cases h : other = label
    · simp [h]
    · simp [h, Ne.symm h, member?]
  | cons head rest ih =>
    obtain ⟨first, old⟩ := head
    simp only [member?] at ih ⊢
    rw [setEntry]
    split
    · next hfirst =>
      rw [hfirst]
      by_cases h : other = label
      · simp [h]
      · simp [h, Ne.symm h]
    · next hfirst =>
      rw [List.find?_cons, List.find?_cons]
      by_cases h : first = other
      · simp [h, h ▸ hfirst]
      · simp only [h, decide_false]
        exact ih

/-- **Setting the count of a label** changes the count of no other one. -/
theorem Histogram.get?_insert (h : Histogram) (label other : String) (count : Nat) :
    (h.insert label count).get? other = if other = label then some count else h.get? other :=
  member?_setEntry label other count h.entries

theorem appearsBefore_snoc_iff {pairs : List (String × Nat)} {a b : String}
    (ha : a ∈ pairs.map Prod.fst) (hb : b ∈ pairs.map Prod.fst) (pair : String × Nat) :
    AppearsBefore (pairs ++ [pair]) a b ↔ AppearsBefore pairs a b := by
  rw [AppearsBefore, AppearsBefore, List.map_append, List.idxOf_append_of_mem ha,
    List.idxOf_append_of_mem hb]

/-- A new label appears behind all others. -/
theorem appearsBefore_new {pairs : List (String × Nat)} {a : String} {pair : String × Nat}
    (ha : a ∈ pairs.map Prod.fst) (hnew : pair.1 ∉ pairs.map Prod.fst) :
    AppearsBefore (pairs ++ [pair]) a pair.1 := by
  rw [AppearsBefore, List.map_append, List.idxOf_append_of_mem ha,
    List.idxOf_append_of_notMem hnew]
  exact Nat.lt_add_right _ (List.idxOf_lt_length_of_mem ha)

/-! ## The count of a label -/

theorem givenLast_iff {pairs : List (String × Nat)} {label : String} {count : Nat} :
    GivenLast pairs label count ↔ member? label pairs.reverse = some count := by
  rw [member?, Option.map_eq_some_iff]
  simp only [List.find?_eq_some_iff_append]
  constructor
  · rintro ⟨front, back, rfl, hback⟩
    refine ⟨(label, count), ⟨by simp, back.reverse, front.reverse, by simp, ?_⟩, rfl⟩
    intro pair hpair
    have hne : pair.1 ≠ label := fun hsame =>
      hback (hsame ▸ List.mem_map_of_mem (List.mem_reverse.mp hpair))
    simp [hne]
  · rintro ⟨⟨other, _⟩, ⟨hlabel, later, earlier, hpairs, hlater⟩, rfl⟩
    simp only [decide_eq_true_eq] at hlabel
    subst hlabel
    refine ⟨earlier.reverse, later.reverse, ?_, fun hmem => ?_⟩
    · rw [← List.reverse_reverse pairs, hpairs]
      simp
    · obtain ⟨pair, hpair, hname⟩ := List.mem_map.mp hmem
      simpa [hname] using hlater pair (List.mem_reverse.mp hpair)

theorem member?_eq_none_iff {label : String} {entries : List (String × Nat)} :
    member? label entries = none ↔ label ∉ entries.map Prod.fst := by
  rw [member?, Option.map_eq_none_iff, List.find?_eq_none, List.mem_map, not_exists]
  simp

namespace Histogram

theorem get?_eq_none_iff {h : Histogram} {label : String} :
    h.get? label = none ↔ label ∉ h.labels :=
  member?_eq_none_iff

theorem get?_eq_some_iff {h : Histogram} {label : String} {count : Nat} :
    h.get? label = some count ↔ (label, count) ∈ h.entries := by
  rw [get?, member?, Option.map_eq_some_iff]
  constructor
  · rintro ⟨⟨other, _⟩, hfind, rfl⟩
    have hlabel : other = label := by simpa using List.find?_some hfind
    exact hlabel ▸ List.mem_of_find?_eq_some hfind
  · intro hmem
    refine ⟨(label, count), ?_, rfl⟩
    obtain ⟨entry, hfind⟩ := Option.isSome_iff_exists.mp
      (List.find?_isSome (p := fun pair : String × Nat => pair.1 = label).mpr
        ⟨_, hmem, by simp⟩)
    have hlabel : entry.1 = label := by simpa using List.find?_some hfind
    rw [hfind, List.inj_on_of_nodup_map h.nodup (List.mem_of_find?_eq_some hfind) hmem hlabel]

end Histogram

/-- The order and the counts of the labels make an ordered map. -/
theorem IsOrderedMapOf.of_order_get? {pairs : List (String × Nat)} {h : Histogram}
    (order : h.labels.Pairwise (AppearsBefore pairs))
    (hget : ∀ label, h.get? label = member? label pairs.reverse) : IsOrderedMapOf pairs h := by
  have hnone (label : String) : h.get? label = none ↔ label ∉ pairs.map Prod.fst := by
    rw [hget, member?_eq_none_iff, List.map_reverse, List.mem_reverse]
  have hsome (label : String) (count : Nat) :
      h.get? label = some count ↔ GivenLast pairs label count := by
    rw [hget, givenLast_iff]
  have hmem (label : String) : label ∈ h.labels ↔ label ∈ pairs.map Prod.fst :=
    not_iff_not.mp (Histogram.get?_eq_none_iff.symm.trans (hnone label))
  refine ⟨h.nodup, order, hmem, hsome, hnone, ?_, ?_, ?_, ?_⟩
  · have hset : h.labels.toFinset = (pairs.map Prod.fst).toFinset := by
      ext label
      rw [List.mem_toFinset, List.mem_toFinset, hmem]
    rw [← hset, Histogram.labels, List.toFinset_card_of_nodup h.nodup, Histogram.size,
      List.length_map]
  · intro label count hgiven
    exact Histogram.le_maxCount (Histogram.get?_eq_some_iff.mp ((hsome label count).mpr hgiven))
  · intro hne
    obtain ⟨first, later, rfl⟩ := List.exists_cons_of_ne_nil hne
    have hentries : h.entries ≠ [] := by
      intro hnil
      have hfirst := (hmem first.1).mpr List.mem_cons_self
      rw [Histogram.labels, hnil] at hfirst
      exact List.not_mem_nil hfirst
    obtain ⟨⟨label, count⟩, hentry, hmax⟩ := Histogram.exists_eq_maxCount hentries
    exact ⟨label, hmax ▸ (hsome label count).mp (Histogram.get?_eq_some_iff.mpr hentry)⟩
  · rintro rfl
    have hentries : h.entries = [] := by
      rw [← List.map_eq_nil_iff (f := Prod.fst)]
      exact List.eq_nil_iff_forall_not_mem.mpr fun label hlabel =>
        List.not_mem_nil ((hmem label).mp hlabel)
    rw [Histogram.maxCount, hentries]
    rfl

/-! ## Pair after pair -/

/-- **One more pair** keeps the ordered map one of the pairs. -/
theorem IsOrderedMapOf.snoc {pairs : List (String × Nat)} {h : Histogram}
    (hmap : IsOrderedMapOf pairs h) (label : String) (count : Nat) :
    IsOrderedMapOf (pairs ++ [(label, count)]) (h.insert label count) := by
  refine .of_order_get? ?_ fun other => ?_
  · have hold : h.labels.Pairwise (AppearsBefore (pairs ++ [(label, count)])) :=
      hmap.order.imp_of_mem fun ha hb hab => (appearsBefore_snoc_iff
        ((hmap.mem_labels _).mp ha) ((hmap.mem_labels _).mp hb) _).mpr hab
    have hlabels : (h.insert label count).labels
        = if label ∈ h.labels then h.labels else h.labels ++ [label] :=
      Histogram.labels_insert h label count
    rw [hlabels]
    split
    · exact hold
    · next hnew =>
      rw [List.pairwise_append]
      refine ⟨hold, List.pairwise_singleton _ _, fun a ha b hb => ?_⟩
      rw [List.mem_singleton.mp hb]
      rw [hmap.mem_labels] at ha hnew
      exact appearsBefore_new ha hnew
  · have hold : h.get? other = member? other pairs.reverse := Option.ext fun n => by
      rw [hmap.get?_eq_some, givenLast_iff]
    rw [Histogram.get?_insert, hold, List.reverse_append, List.reverse_singleton,
      List.singleton_append, member?, member?, List.find?_cons]
    by_cases hsame : other = label
    · simp [hsame]
    · simp [hsame, Ne.symm hsame]

/-- **The histogram of pairs is their ordered map.** -/
theorem isOrderedMapOf_ofList (pairs : List (String × Nat)) :
    IsOrderedMapOf pairs (Histogram.ofList pairs) := by
  induction pairs using List.reverseRecOn with
  | nil => exact .of_order_get? List.Pairwise.nil fun _ => rfl
  | append_singleton pairs pair ih =>
    rw [Histogram.ofList, List.foldl_append]
    exact ih.snoc pair.1 pair.2

/-- Pairs that are set in the histogram there is come after its entries. -/
theorem foldl_insert_eq_ofList (h : Histogram) (pairs : List (String × Nat)) :
    pairs.foldl (fun h pair => h.insert pair.1 pair.2) h
      = Histogram.ofList (h.entries ++ pairs) := by
  rw [Histogram.ofList, List.foldl_append, ← Histogram.ofList, Histogram.ofList_entries]

/-! ## All ways in -/

/-- **A histogram is an ordered map**, and it does not matter how its pairs come in: what pairs
make of the histogram there is, when they are set in it one by one, and what is read of an object
with these members, however its labels are spelled, is the ordered map of all pairs. -/
theorem histogram_isOrderedMap :
    (∀ pairs : List (String × Nat), IsOrderedMapOf pairs (Histogram.ofList pairs)) ∧
    (∀ (h : Histogram) (pairs : List (String × Nat)),
      pairs.foldl (fun h pair => h.insert pair.1 pair.2) h
        = Histogram.ofList (h.entries ++ pairs)) ∧
    (∀ (text : String) (h : Histogram), Histogram.decoder.parse text = .ok h ↔
      ∃ pairs, Encodes text.toList pairs ∧ h = Histogram.ofList pairs) :=
  ⟨isOrderedMapOf_ofList, foldl_insert_eq_ofList, fun _ _ => parse_eq_ok_iff⟩

/-- A label that is given again in another spelling: it keeps its place, its last count counts, and
so the count that was the greatest does not. -/
theorem histogram_isOrderedMap_spelled_again :
    Histogram.decoder.parse "\x7b\"a\":50,\"b\":9,\"\\u0061\":2\x7d"
      = .ok ⟨[("a", 2), ("b", 9)], by decide⟩ ∧
    Histogram.get? ⟨[("a", 2), ("b", 9)], by decide⟩ "a" = some 2 ∧
    Histogram.maxCount ⟨[("a", 2), ("b", 9)], by decide⟩ = 9 := by
  obtain ⟨hmap, -, hread⟩ := histogram_isOrderedMap
  have hgathered : Histogram.ofList [("a", 50), ("b", 9), ("a", 2)]
      = ⟨[("a", 2), ("b", 9)], by decide⟩ := by decide
  have hplain {c : Char} (hc : IsUnescaped c) : Denotes [c] [c] := .cons (.plain hc) .nil
  have hfirst : IsMember ['\"', 'a', '\"', ':', '5', '0'] ("a", 50) :=
    ⟨.narrow, ['a'], hplain (by decide), by decide, rfl⟩
  have hsecond : IsMember ['\"', 'b', '\"', ':', '9'] ("b", 9) :=
    ⟨.narrow, ['b'], hplain (by decide), by decide, rfl⟩
  have hcode : Denotes ['\\', 'u', '0', '0', '6', '1'] ['a'] :=
    .cons (.code (n := 0x61) rfl (by decide) (by decide)) .nil
  have hagain : IsMember ['\"', '\\', 'u', '0', '0', '6', '1', '\"', ':', '2'] ("a", 2) :=
    ⟨.narrow, _, hcode, by decide, rfl⟩
  have hobject := IsObject.members hfirst (.cons hsecond (.cons hagain .nil))
  have hordered := hmap [("a", 50), ("b", 9), ("a", 2)]
  rw [hgathered] at hordered
  refine ⟨(hread _ _).mpr ⟨_, ?_, hgathered.symm⟩, ?_, rfl⟩
  · exact ⟨.ofAll [] rfl, .ofAll [] rfl, _, hobject, rfl⟩
  · exact (hordered.get?_eq_some "a" 2).mpr ⟨[("a", 50), ("b", 9)], [], rfl, by decide⟩

end QuantumBlocks
