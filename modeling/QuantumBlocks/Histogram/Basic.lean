import QuantumBlocks.Json.Record
import QuantumBlocks.Json.Printer

/-!
# Histograms

Labels with counts, in the order in which the labels first appeared. A label that is given again
takes the new count and keeps its place. Main statement: the labels stay distinct.
-/

namespace QuantumBlocks

open Json

/-! ## Entries -/

/-- Sets the count of a label in its place, or adds the label at the end. -/
def setEntry (label : String) (count : Nat) : List (String × Nat) → List (String × Nat)
  | [] => [(label, count)]
  | (other, old) :: rest =>
    if other = label then (other, count) :: rest
    else (other, old) :: setEntry label count rest

/-- The labels after a count was set. -/
theorem labels_setEntry (label : String) (count : Nat) (entries : List (String × Nat)) :
    (setEntry label count entries).map Prod.fst =
      if label ∈ entries.map Prod.fst then entries.map Prod.fst
      else entries.map Prod.fst ++ [label] := by
  induction entries with
  | nil => simp [setEntry]
  | cons head rest ih =>
    obtain ⟨other, old⟩ := head
    simp only [setEntry]
    by_cases h : other = label
    · simp [h]
    · rw [if_neg h, List.map_cons, ih]
      have hne : ¬label = other := fun e => h e.symm
      by_cases hm : label ∈ rest.map Prod.fst
      · simp only [List.map_cons, List.mem_cons, hne, hm, or_true, if_pos]
      · simp only [List.map_cons, List.mem_cons, hne, hm, or_self, if_false, List.cons_append]

/-- Setting a count keeps the labels distinct. -/
theorem nodup_setEntry {entries : List (String × Nat)} (h : (entries.map Prod.fst).Nodup)
    (label : String) (count : Nat) : ((setEntry label count entries).map Prod.fst).Nodup := by
  rw [labels_setEntry]
  split
  · exact h
  · rename_i hm
    rw [List.nodup_append]
    refine ⟨h, by simp, ?_⟩
    intro a ha b hb
    rw [List.mem_singleton] at hb
    subst hb
    exact fun hab => hm (hab ▸ ha)

/-! ## Histograms -/

/-- Labels with counts, in the order of first appearance. -/
structure Histogram where
  entries : List (String × Nat)
  nodup : (entries.map Prod.fst).Nodup

namespace Histogram

instance : DecidableEq Histogram := fun a b =>
  if h : a.entries = b.entries then isTrue (by cases a; cases b; simp_all)
  else isFalse fun hab => h (by rw [hab])

/-- No labels. -/
def empty : Histogram := ⟨[], List.nodup_nil⟩

instance : Inhabited Histogram := ⟨empty⟩

/-- Sets the count of a label. -/
def insert (h : Histogram) (label : String) (count : Nat) : Histogram :=
  ⟨setEntry label count h.entries, nodup_setEntry h.nodup label count⟩

/-- The labels after a count was set: a new label stands at the end. -/
theorem labels_insert (h : Histogram) (label : String) (count : Nat) :
    (h.insert label count).entries.map Prod.fst =
      if label ∈ h.entries.map Prod.fst then h.entries.map Prod.fst
      else h.entries.map Prod.fst ++ [label] :=
  labels_setEntry label count h.entries

/-- The histogram of a list, its pairs set one after the other. -/
def ofList (pairs : List (String × Nat)) : Histogram :=
  pairs.foldl (fun h pair => h.insert pair.1 pair.2) empty

/-- The count of a label. -/
def get? (h : Histogram) (label : String) : Option Nat := member? label h.entries

/-- The labels in order. -/
def labels (h : Histogram) : List String := h.entries.map Prod.fst

/-- The greatest count, zero if there are no labels. -/
def maxCount (h : Histogram) : Nat := (h.entries.map Prod.snd).foldl max 0

/-- The number of labels. -/
def size (h : Histogram) : Nat := h.entries.length

/-- Whether there are no labels. -/
def isEmpty (h : Histogram) : Bool := h.entries.isEmpty

/-! ## JSON -/

/-- The compact JSON text, members in the order of the labels. -/
def render (h : Histogram) : String :=
  renderObject (h.entries.map fun entry => renderMember entry.1 (toString entry.2))

/-- What messages call a histogram. -/
def expected : String := "a map of labels to non-negative integer counts"

/-- Reads a histogram from an object, whose members are set one after the other. -/
def decoder : Decoder Histogram := (Decoder.members .unsigned64 expected).map ofList

end Histogram

end QuantumBlocks
