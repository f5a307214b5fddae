import QuantumBlocks.Proofs.Counts.Tally
import QuantumBlocks.Proofs.Simulator.Unshared
import Mathlib.Algebra.BigOperators.Finprod

/-!
# More shots

A run with more shots does first what a run with fewer shots does: each shot starts from the same
state, with the generator that the shots before it have left, and so it reads the same key. The
shots that come later only add to what was counted.

* `keysOf_of_le` — the keys of fewer shots are the first ones of more shots
* `run_eq_ok_iff_keys` — a run counts the keys of its shots
* `resultOf_more_shots` — what a run counts beyond a run with fewer shots
-/

namespace QuantumBlocks

/-! ## Counting keys -/

theorem tally_map_one (key : String) (keys : List String) :
    tally key (keys.map fun k => (k, 1)) = keys.count key := by
  induction keys with
  | nil => rfl
  | cons head rest ih =>
    rw [List.map_cons, tally_cons, ih, List.count_cons, Nat.add_comm]
    simp only [beq_iff_eq]

namespace Circuit

theorem get_countKeys (keys : List String) (key : String) :
    (countKeys keys).get key = keys.count key := by
  rw [Counts.get_eq_tally, countKeys, Counts.tally_ofList, tally_map_one]

/-- The numbers of all keys in a list add up to its length. -/
theorem finsum_count (keys : List String) : ∑ᶠ key, keys.count key = keys.length := by
  rw [finsum_eq_sum_of_support_subset (s := keys.toFinset), List.sum_toFinset_count_eq_length]
  intro key hkey
  simpa using List.count_pos_iff.mp (Nat.pos_of_ne_zero hkey)

/-! ## The keys of a run -/

section Keys

variable {shot : Generator → Option (String × Generator)} {g : Generator} {keys : List String}

theorem length_of_keysOf {shots : Nat} (h : keysOf shot shots g = some keys) :
    keys.length = shots := by
  induction shots generalizing g keys with
  | zero =>
    cases h
    rfl
  | succ shots ih =>
    simp only [keysOf, Option.bind_eq_bind, Option.bind_eq_some_iff] at h
    obtain ⟨⟨key, g'⟩, -, rest, hrest, h⟩ := h
    cases h
    rw [List.length_cons, ih hrest]

/-- **The keys of fewer shots are the first ones of more shots.** -/
theorem keysOf_of_le {a b : Nat} (hab : a ≤ b) (h : keysOf shot b g = some keys) :
    keysOf shot a g = some (keys.take a) := by
  induction a generalizing b g keys with
  | zero => rfl
  | succ a ih =>
    obtain ⟨b, rfl⟩ := Nat.exists_eq_add_of_le' hab
    rw [← Nat.add_assoc] at h
    simp only [keysOf, Option.bind_eq_bind, Option.bind_eq_some_iff] at h ⊢
    obtain ⟨⟨key, g'⟩, hkey, rest, hrest, h⟩ := h
    cases h
    exact ⟨(key, g'), hkey, rest.take a, ih (by omega) hrest, rfl⟩

end Keys

/-- The shots of a run that has applied the gates before the first measurement. -/
def shotFrom (c : Circuit) (s : Statevector) : Generator → Option (String × Generator) :=
  if c.measurementsAreTerminal then c.sampledShot s else c.replayedShot s

variable {c : Circuit} {shots : Nat} {seed : UInt64}

theorem countReadings_eq {s : Statevector}
    (hs : (Statevector.init c.numQubits).applyAll c.leadingGates = some s) :
    c.countReadings shots seed = (keysOf (c.shotFrom s) shots (.ofSeed seed)).map countKeys := by
  rw [funext countKeys_eq_foldl, ← countShots_eq_map_keys]
  simp only [countReadings, hs]
  rfl

/-- **What comes of a run**: the keys that its shots read one after the other are counted. -/
theorem run_eq_ok_iff_keys {counts : Counts} :
    c.run shots seed = .ok counts ↔
      c.hasMeasurements = true ∧
      ∃ s, (Statevector.init c.numQubits).applyAll c.leadingGates = some s ∧
        ∃ keys, keysOf (c.shotFrom s) shots (.ofSeed seed) = some keys ∧
          countKeys keys = counts := by
  have hreadings : c.countReadings shots seed = some counts ↔
      ∃ s, (Statevector.init c.numQubits).applyAll c.leadingGates = some s ∧
        ∃ keys, keysOf (c.shotFrom s) shots (.ofSeed seed) = some keys ∧
          countKeys keys = counts := by
    cases hs : (Statevector.init c.numQubits).applyAll c.leadingGates with
    | none => simp [countReadings, hs]
    | some s =>
      rw [countReadings_eq hs, Option.map_eq_some_iff]
      simp
  rw [← hreadings, run]
  by_cases hm : c.hasMeasurements = true
  · rw [if_pos hm]
    cases c.countReadings shots seed with
    | none => simp
    | some others => simp [hm]
  · simp [hm]

/-! ## Fewer shots and more shots -/

/-- **More shots only add outcomes.** If a circuit can be run for some number of shots, it can be
run for fewer with the same seed; every key is counted at least as often by the longer run, and
what the longer run counts more, over all keys, is one for each further shot. A well-formed circuit
that measures anything can be run for any number of shots. -/
theorem resultOf_more_shots (c : Circuit) (seed : UInt64) {a b : Nat} (hab : a ≤ b)
    (elapsedMs elapsedMs' : Nat) :
    (∀ larger, c.resultOf b seed elapsedMs' = .ok larger →
      ∃ smaller, c.resultOf a seed elapsedMs = .ok smaller ∧
        (∀ key, smaller.counts.get key ≤ larger.counts.get key) ∧
        ∑ᶠ key, (larger.counts.get key - smaller.counts.get key) = b - a) ∧
    (c.WellFormed → c.hasMeasurements = true →
      ∃ larger, c.resultOf b seed elapsedMs' = .ok larger) := by
  constructor
  · intro larger hlarger
    obtain ⟨counts, hcounted, rfl⟩ := resultOf_eq_ok_iff.mp hlarger
    obtain ⟨hm, s, hs, keys, hkeys, hcounts⟩ := run_eq_ok_iff_keys.mp hcounted
    have hrun : c.run a seed = .ok (countKeys (keys.take a)) :=
      run_eq_ok_iff_keys.mpr ⟨hm, s, hs, _, keysOf_of_le hab hkeys, rfl⟩
    -- What is counted more are the keys of the shots that come later.
    have hget (key : String) :
        counts.get key = (countKeys (keys.take a)).get key + (keys.drop a).count key := by
      rw [← hcounts, get_countKeys, get_countKeys, ← List.count_append, List.take_append_drop]
    refine ⟨_, resultOf_eq_ok_iff.mpr ⟨_, hrun, rfl⟩, fun key => ?_, ?_⟩
    · rw [hget]
      exact Nat.le_add_right _ _
    · simp only [hget, Nat.add_sub_cancel_left]
      rw [finsum_count, List.length_drop, length_of_keysOf hkeys]
  · intro h hm
    obtain ⟨counts, hrun, -⟩ := h.exists_run hm b seed
    exact ⟨_, resultOf_eq_ok_iff.mpr ⟨_, hrun, rfl⟩⟩

/-- A circuit that turns a qubit over between two measurements, and one that measures it twice in
the end, each with a hundred shots and with four hundred. -/
theorem resultOf_more_shots_flipped :
    let start := [Operation.applyGate .h [0], .measureAll].foldl perform (withSize "one" 1 0)
    let c := [Operation.applyGate .x [0], .measureAll].foldl perform start
    let d := start.perform .measureAll
    (c.measurementsAreTerminal = false ∧
      ∃ larger smaller, c.resultOf 400 3 0 = .ok larger ∧ c.resultOf 100 3 0 = .ok smaller ∧
        (∀ key, smaller.counts.get key ≤ larger.counts.get key) ∧
        ∑ᶠ key, (larger.counts.get key - smaller.counts.get key) = 300) ∧
    d.measurementsAreTerminal = true ∧
      ∃ larger smaller, d.resultOf 400 3 0 = .ok larger ∧ d.resultOf 100 3 0 = .ok smaller ∧
        (∀ key, smaller.counts.get key ≤ larger.counts.get key) ∧
        ∑ᶠ key, (larger.counts.get key - smaller.counts.get key) = 300 := by
  intro start c d
  have hstart : Reachable start := (Reachable.create "one" 1 0).foldl _
  have hc : c.WellFormed := (hstart.foldl _).wellFormed
  have hd : d.WellFormed := (hstart.perform .measureAll).wellFormed
  have hle : 100 ≤ 400 := by decide
  obtain ⟨hmiddle, hruns⟩ := resultOf_more_shots c 3 hle 0 0
  obtain ⟨hend, hruns'⟩ := resultOf_more_shots d 3 hle 0 0
  obtain ⟨larger, hlarger⟩ := hruns hc (by decide)
  obtain ⟨larger', hlarger'⟩ := hruns' hd (by decide)
  obtain ⟨smaller, hsmaller⟩ := hmiddle larger hlarger
  obtain ⟨smaller', hsmaller'⟩ := hend larger' hlarger'
  exact ⟨⟨by decide, larger, smaller, hlarger, hsmaller⟩, by decide, larger', smaller', hlarger',
    hsmaller'⟩

end Circuit

end QuantumBlocks
