import QuantumBlocks.Json.Record

/-!
# Counts of outcomes

How often each outcome was seen. Outcomes are kept in ascending order with one entry each, so two
counts that agree on every outcome are equal. Main statement: adding to an outcome keeps the
outcomes in order.
-/

namespace QuantumBlocks

open Json

/-! ## Entries -/

/-- Adds to the number of an outcome, which stands in its place among the others. -/
def addEntry (outcome : String) (n : Nat) : List (String × Nat) → List (String × Nat)
  | [] => [(outcome, n)]
  | (other, old) :: rest =>
    if outcome < other then (outcome, n) :: (other, old) :: rest
    else if outcome = other then (other, old + n) :: rest
    else (other, old) :: addEntry outcome n rest

theorem mem_addEntry {outcome : String} {n : Nat} {entries : List (String × Nat)}
    {entry : String × Nat} (h : entry ∈ addEntry outcome n entries) :
    entry.1 = outcome ∨ entry ∈ entries := by
  induction entries with
  | nil => simp_all [addEntry]
  | cons head rest ih =>
    simp only [addEntry] at h
    split at h
    · rcases List.mem_cons.1 h with rfl | h
      · exact Or.inl rfl
      · exact Or.inr h
    · split at h
      · rename_i heq
        rcases List.mem_cons.1 h with rfl | h
        · exact Or.inl heq.symm
        · exact Or.inr (List.mem_cons_of_mem _ h)
      · rcases List.mem_cons.1 h with rfl | h
        · exact Or.inr (List.mem_cons_self)
        · exact (ih h).imp_right (List.mem_cons_of_mem _)

/-- Adding to an outcome keeps the order. -/
theorem ascending_addEntry {entries : List (String × Nat)} (h : Ascending entries)
    (outcome : String) (n : Nat) : Ascending (addEntry outcome n entries) := by
  induction entries with
  | nil => simp [addEntry, Ascending]
  | cons head rest ih =>
    have hcons := List.pairwise_cons.1 h
    simp only [addEntry]
    split
    · rename_i hlt
      refine List.pairwise_cons.2 ⟨?_, h⟩
      intro entry he
      rcases List.mem_cons.1 he with rfl | he
      · exact hlt
      · exact String.lt_trans hlt (hcons.1 entry he)
    · rename_i hlt
      split
      · exact List.pairwise_cons.2 ⟨hcons.1, hcons.2⟩
      · rename_i hne
        have hgt : head.1 < outcome := by
          rcases Decidable.em (head.1 < outcome) with hc | hc
          · exact hc
          · exact absurd (String.le_antisymm (String.not_lt.1 hc) (String.not_lt.1 hlt)) hne
        refine List.pairwise_cons.2 ⟨?_, ih hcons.2⟩
        intro entry he
        rcases mem_addEntry he with heq | he
        · rw [heq]
          exact hgt
        · exact hcons.1 entry he

/-! ## Counts -/

/-- How often each outcome was seen, outcomes in ascending order. -/
structure Counts where
  entries : List (String × Nat)
  ascending : Ascending entries

namespace Counts

instance : DecidableEq Counts := fun a b =>
  if h : a.entries = b.entries then isTrue (by cases a; cases b; simp_all)
  else isFalse fun hab => h (by rw [hab])

/-- No outcome was seen. -/
def empty : Counts := ⟨[], List.Pairwise.nil⟩

instance : Inhabited Counts := ⟨empty⟩

/-- Adds to the number of an outcome. -/
def insert (c : Counts) (outcome : String) (n : Nat) : Counts :=
  ⟨addEntry outcome n c.entries, ascending_addEntry c.ascending outcome n⟩

/-- The counts of a list, the numbers of equal outcomes being added. -/
def ofList (pairs : List (String × Nat)) : Counts :=
  pairs.foldl (fun c pair => c.insert pair.1 pair.2) empty

/-- The counts of a list in which the last number of an outcome counts. -/
def ofMembers (pairs : List (String × Nat)) : Counts := ofList (membersOf pairs)

/-- The number of an outcome, zero if it was never seen. -/
def get (c : Counts) (outcome : String) : Nat := (member? outcome c.entries).getD 0

/-- The sum of all numbers. -/
def total (c : Counts) : Nat := c.entries.foldr (fun entry sum => entry.2 + sum) 0

/-- The number of different outcomes. -/
def size (c : Counts) : Nat := c.entries.length

/-- Whether there are no outcomes. -/
def isEmpty (c : Counts) : Bool := c.entries.isEmpty

/-! ## Ranking -/

/-- A greater number comes first; of equal numbers the smaller outcome does. -/
def ranksBefore (a b : String × Nat) : Bool :=
  b.2 < a.2 || (a.2 == b.2 && a.1 ≤ b.1)

/-- The entries in the order of their rank. -/
def ranked (c : Counts) : List (String × Nat) := c.entries.mergeSort ranksBefore

/-! ## JSON -/

/-- Counts as an object with one member for each outcome. -/
def toValue (c : Counts) : Value :=
  .object (c.entries.map fun entry => (entry.1, .number (.integer entry.2)))

/-- Reads counts from an object. -/
def decoder : Decoder Counts := (Decoder.members .unsigned64 "a map").map ofMembers

end Counts

end QuantumBlocks
