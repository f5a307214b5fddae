import QuantumBlocks.Proofs.Circuit.WellFormed
import QuantumBlocks.Proofs.Simulator.Kernels

/-!
# State vectors keep their size

A state of `n` qubits has `2 ^ n` amplitudes, whatever is done to it. A gate whose operands are
among the qubits finds both entries of every pair, so every access is in bounds, and so is every
sample.

* `exists_apply_of_fits` — an instruction that fits can be applied
* `OfQubits.measure` — reading a qubit keeps the size
* `sample_lt` — a sample is an index of the vector
-/

namespace QuantumBlocks

namespace Statevector

/-! ## States of some qubits -/

/-- A state of `n` qubits, with an amplitude for each of their values. -/
structure OfQubits (n : Nat) (s : Statevector) : Prop where
  numQubits_eq : s.numQubits = n
  size_eq : s.amplitudes.size = 2 ^ n

theorem ofQubits_init (n : Nat) : (init n).OfQubits n where
  numQubits_eq := rfl
  size_eq := by simp [init, Nat.one_shiftLeft]

/-- **An instruction that fits can be applied**, and the state keeps its size. -/
theorem exists_apply_of_fits {n m : Nat} {s : Statevector} (hs : s.OfQubits n) {i : Instruction}
    (hi : i.Fits n m) : ∃ t, s.apply i = some t ∧ t.OfQubits n := by
  cases hk : i.kind with
  | measure => exact ⟨s, by rw [apply, hk], hs⟩
  | gate g =>
    obtain ⟨old, hold⟩ := exists_eq_table hs.size_eq
    have happly := apply_table old hold hk (hi.arity_le hk) hi.qubits_lt hi.nodup
    exact ⟨_, happly, hs.numQubits_eq, size_table n _⟩

theorem exists_applyAll_of_fits {n m : Nat} {s : Statevector} (hs : s.OfQubits n)
    {is : List Instruction} (his : ∀ i ∈ is, i.Fits n m) :
    ∃ t, s.applyAll is = some t ∧ t.OfQubits n :=
  exists_foldlM_of_step (fun _ hs i hi => exists_apply_of_fits hs (his i hi)) hs

/-! ## Measurement -/

theorem OfQubits.measure {n : Nat} {s : Statevector} (hs : s.OfQubits n) (q : Nat)
    (random : Float) : (s.measure q random).2.OfQubits n where
  numQubits_eq := hs.numQubits_eq
  size_eq := by simpa [Statevector.measure, collapse, withAmplitudes] using hs.size_eq

/-! ## Sampling -/

theorem sampleFrom_lt {random : Float} {v : Array Amplitude} {k : Nat} (count i : Nat) (sum : Float)
    (h : sampleFrom random v count i sum = some k) : k < i + count := by
  induction count generalizing i sum with
  | zero => simp [sampleFrom] at h
  | succ count ih =>
    unfold sampleFrom at h
    split at h
    · split at h
      · rw [Option.some.injEq] at h
        omega
      · have := ih (i + 1) _ h
        omega
    · simp at h

theorem lastWeighted_lt (v : Array Amplitude) {count : Nat} (h : 0 < count) :
    lastWeighted v count < count := by
  induction count with
  | zero => omega
  | succ count ih =>
    have hrest : lastWeighted v count < count + 1 := by
      rcases Nat.eq_zero_or_pos count with rfl | hpos
      · exact Nat.one_pos
      · exact Nat.lt_succ_of_lt (ih hpos)
    unfold lastWeighted
    split
    · split
      · exact Nat.lt_succ_self count
      · exact hrest
    · exact hrest

/-- **A sample is an index of the vector.** -/
theorem sample_lt {n : Nat} {s : Statevector} (hs : s.OfQubits n) (random : Float) :
    s.sample random < 2 ^ n := by
  rw [← hs.size_eq]
  unfold sample
  split
  · next k hk =>
    have := sampleFrom_lt _ _ _ hk
    omega
  -- The weights did not add up to the random number.
  · refine lastWeighted_lt s.amplitudes ?_
    rw [hs.size_eq]
    exact Nat.two_pow_pos n

end Statevector

end QuantumBlocks
