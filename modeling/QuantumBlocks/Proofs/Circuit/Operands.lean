import QuantumBlocks.Number.Binary64
import QuantumBlocks.Proofs.Circuit.WellFormed
import Mathlib.Data.List.Perm.Subperm

/-!
# Operands of the instructions in a circuit

What is known of an instruction because it is in a circuit, whatever the circuit was asked to do
and however often it refused. The check of a gate compares a count of qubits that was cut to 32
bits. No count is wrong for that: different qubits of a circuit are as many as a word holds at
most, so the cut changes nothing. Measurements are different. The operations that put one together
pair qubits with bits, and the check of an instruction that comes as it stands does not look at
the pairing.

* `fits_iff_isExact` — the check of a count that was cut is the check of the count
* `foldl_perform_isExact` — what holds of a circuit after any operations
* `foldl_perform_isPaired` — the measurements of a circuit are paired unless they came unpaired
-/

namespace QuantumBlocks

open Number

/-! ## Counts in a word -/

/-- Different numbers below `n` are at most `n` many. -/
theorem length_le_of_nodup {ids : List Nat} {n : Nat} (hnodup : ids.Nodup)
    (hlt : ∀ id ∈ ids, id < n) : ids.length ≤ n := by
  have hsub : ids ⊆ List.range n := fun id hid => List.mem_range.mpr (hlt id hid)
  have hle := (List.subperm_of_subset hnodup hsub).length_le
  rw [List.length_range] at hle
  exact hle

/-- The cut changes no count of different qubits of a circuit. -/
theorem Circuit.wordCount_eq_length {qubits : List Nat} {n : Nat} (hn : n ≤ maxUnsigned32)
    (hnodup : qubits.Nodup) (hlt : ∀ q ∈ qubits, q < n) : wordCount qubits = qubits.length := by
  have hle : qubits.length ≤ maxUnsigned32 := Nat.le_trans (length_le_of_nodup hnodup hlt) hn
  exact Nat.mod_eq_of_lt (Nat.lt_of_le_of_lt hle (by decide))

/-! ## Instructions -/

/-- An instruction names different qubits and bits of a circuit, and a gate as many qubits as it
acts on. -/
structure Instruction.IsExact (i : Instruction) (numQubits numClbits : Nat) : Prop where
  nodup : i.qubits.Nodup
  qubits_lt : ∀ q ∈ i.qubits, q < numQubits
  clbits_lt : ∀ b ∈ i.clbits, b < numClbits
  length_eq : ∀ g, i.kind = .gate g → i.qubits.length = g.arity

/-- **The check of a count that was cut is the check of the count.** -/
theorem Instruction.fits_iff_isExact {i : Instruction} {n m : Nat} (hn : n ≤ maxUnsigned32) :
    i.Fits n m ↔ i.IsExact n m := by
  constructor
  · intro h
    refine ⟨h.nodup, h.qubits_lt, h.clbits_lt, fun g hg => ?_⟩
    rw [← Circuit.wordCount_eq_length hn h.nodup h.qubits_lt]
    exact h.arity g hg
  · intro h
    refine ⟨fun g hg => ?_, h.qubits_lt, h.clbits_lt, h.nodup⟩
    rw [Circuit.wordCount_eq_length hn h.nodup h.qubits_lt]
    exact h.length_eq g hg

/-- A measurement has one bit for each qubit. -/
def Instruction.IsPaired (i : Instruction) : Prop :=
  i.kind = .measure → i.qubits.length = i.clbits.length

/-- The targets of a paired measurement leave out neither a qubit nor a bit. -/
theorem Instruction.IsPaired.unzip_targets {i : Instruction} (h : i.IsPaired)
    (hkind : i.kind = .measure) : i.targets.unzip = (i.qubits, i.clbits) :=
  List.unzip_zip (h hkind)

theorem Instruction.isPaired_gate (g : Gate) (qubits : List Nat) :
    (Instruction.gate g qubits).IsPaired := by
  intro h
  cases h

namespace Circuit

variable {c d : Circuit} {o : Operation} {i : Instruction}

/-! ## What an operation adds -/

theorem apply_eq_push_iff : c.apply i = .ok (c.push i) ↔ i.Fits c.numQubits c.numClbits := by
  rw [apply_eq_ok_iff, check_eq_ok_iff, and_iff_left rfl]

theorem mem_instructions_of_apply {j : Instruction} (h : c.apply i = .ok d)
    (hj : j ∈ d.instructions) : j ∈ c.instructions ∨ j = i := by
  obtain ⟨-, rfl⟩ := apply_eq_ok_iff.mp h
  rw [push, List.mem_append, List.mem_singleton] at hj
  exact hj

theorem measureMany_eq_ok_iff {qubits clbits : List Nat} :
    Instruction.measureMany qubits clbits = .ok i ↔
      qubits.length = clbits.length ∧ i = ⟨.measure, qubits, clbits⟩ := by
  unfold Instruction.measureMany
  split
  · next h => simp [h, eq_comm]
  · next h => simp [h]

/-- Qubits and bits of different numbers are refused before they become an instruction. -/
theorem measureMany_of_length_ne {qubits clbits : List Nat}
    (h : qubits.length ≠ clbits.length) :
    c.measureMany qubits clbits = .error (.measureArity qubits.length clbits.length) := by
  rw [measureMany, Instruction.measureMany, if_neg h]
  rfl

theorem numQubits_of_attempt (h : c.attempt o = .ok d) : d.numQubits = c.numQubits := by
  have happly {i : Instruction} (h : c.apply i = .ok d) : d.numQubits = c.numQubits := by
    obtain ⟨-, rfl⟩ := apply_eq_ok_iff.mp h
    rfl
  cases o with
  | addRegister size =>
    cases h
    rfl
  | apply i => exact happly h
  | applyGate g qubits => exact happly h
  | measure qubit clbit => exact happly h
  | measureMany qubits clbits =>
    obtain ⟨i, -, hi⟩ := bind_eq_ok_iff.mp h
    exact happly hi
  | measureAll =>
    rw [attempt, measureAll_eq_ok] at h
    cases h
    rfl

/-- **What an operation adds to a circuit is paired**, unless it came as it stands. -/
theorem isPaired_of_attempt (h : c.attempt o = .ok d) (hi : i ∈ d.instructions) :
    i ∈ c.instructions ∨ o = .apply i ∨ i.IsPaired := by
  cases o with
  | addRegister size =>
    cases h
    exact Or.inl hi
  | apply j =>
    rcases mem_instructions_of_apply h hi with hi | rfl
    · exact Or.inl hi
    · exact Or.inr (Or.inl rfl)
  | applyGate g qubits =>
    rcases mem_instructions_of_apply h hi with hi | rfl
    · exact Or.inl hi
    · exact Or.inr (Or.inr (Instruction.isPaired_gate g qubits))
  | measure qubit clbit =>
    rcases mem_instructions_of_apply h hi with hi | rfl
    · exact Or.inl hi
    · exact Or.inr (Or.inr fun _ => rfl)
  | measureMany qubits clbits =>
    obtain ⟨j, hj, h⟩ := bind_eq_ok_iff.mp h
    obtain ⟨hlen, rfl⟩ := measureMany_eq_ok_iff.mp hj
    rcases mem_instructions_of_apply h hi with hi | rfl
    · exact Or.inl hi
    · exact Or.inr (Or.inr fun _ => hlen)
  | measureAll =>
    rw [attempt, measureAll_eq_ok, Except.ok.injEq] at h
    rw [← h, push, List.mem_append, List.mem_singleton] at hi
    rcases hi with hi | rfl
    · exact Or.inl hi
    · refine Or.inr (Or.inr fun _ => ?_)
      rw [readout, List.length_range, List.length_range']

theorem numQubits_perform (c : Circuit) (o : Operation) :
    (c.perform o).numQubits = c.numQubits := by
  unfold perform
  split
  · next h => exact numQubits_of_attempt h
  · rfl

theorem isPaired_perform (hi : i ∈ (c.perform o).instructions) :
    i ∈ c.instructions ∨ o = .apply i ∨ i.IsPaired := by
  unfold perform at hi
  split at hi
  · next h => exact isPaired_of_attempt h hi
  · exact Or.inl hi

/-! ## What operations add -/

theorem numQubits_foldl_perform (c : Circuit) (os : List Operation) :
    (os.foldl perform c).numQubits = c.numQubits := by
  induction os generalizing c with
  | nil => rfl
  | cons o os ih => rw [List.foldl_cons, ih, numQubits_perform]

theorem isPaired_of_mem_foldl_perform {os : List Operation}
    (hi : i ∈ (os.foldl perform c).instructions) :
    i ∈ c.instructions ∨ .apply i ∈ os ∨ i.IsPaired := by
  induction os generalizing c with
  | nil => exact Or.inl hi
  | cons o os ih =>
    rcases ih hi with hmem | hlater | hpaired
    · rcases isPaired_perform hmem with hmem | rfl | hpaired
      · exact Or.inl hmem
      · exact Or.inr (Or.inl List.mem_cons_self)
      · exact Or.inr (Or.inr hpaired)
    · exact Or.inr (Or.inl (List.mem_cons_of_mem _ hlater))
    · exact Or.inr (Or.inr hpaired)

/-- **What holds of a circuit after any operations.** Its registers make up its classical bits.
Every instruction in it names different qubits and bits of the circuit, and a gate exactly as many
qubits as it acts on. Another instruction is accepted exactly if it does so too, although its
qubits are counted in 32 bits. -/
theorem foldl_perform_isExact (name : String) {numQubits : Nat} (numClbits : Nat)
    (hn : numQubits ≤ maxUnsigned32) (os : List Operation) :
    let c := os.foldl perform (withSize name numQubits numClbits)
    c.numQubits = numQubits ∧ c.registers.sum = c.numClbits ∧
    (∀ i ∈ c.instructions, i.IsExact c.numQubits c.numClbits) ∧
    ∀ i, c.attempt (.apply i) = .ok (c.push i) ↔ i.IsExact c.numQubits c.numClbits := by
  intro c
  have hsize : c.numQubits = numQubits :=
    numQubits_foldl_perform (withSize name numQubits numClbits) os
  have hword : c.numQubits ≤ maxUnsigned32 := hsize ▸ hn
  have hwell : c.WellFormed := ((Reachable.create name numQubits numClbits).foldl os).wellFormed
  refine ⟨hsize, hwell.sum_registers, ?_, ?_⟩
  · intro i hi
    exact (Instruction.fits_iff_isExact hword).mp (hwell.fits i hi)
  · intro i
    rw [attempt, apply_eq_push_iff, Instruction.fits_iff_isExact hword]

/-- A circuit with a register from the start, one that was added and one of a measurement, after
three refusals: a qubit too large, too few qubits and a qubit that stands twice. -/
theorem foldl_perform_isExact_refused :
    let c := [Operation.applyGate .cx [0, 2], .applyGate .h [3], .addRegister 4,
      .apply ⟨.gate .cx, [1], []⟩, .measureAll, .apply ⟨.measure, [2, 2], [0, 1]⟩].foldl perform
        (withSize "three" 3 1)
    3 ≤ maxUnsigned32 ∧ c.registers = [1, 4, 3] ∧ c.instructions.length = 2 ∧
      c.registers.sum = c.numClbits ∧ ∀ i ∈ c.instructions, i.IsExact 3 8 := by
  intro c
  have hn : 3 ≤ maxUnsigned32 := by decide
  obtain ⟨-, hsum, hexact, -⟩ := foldl_perform_isExact "three" 1 hn
    [.applyGate .cx [0, 2], .applyGate .h [3], .addRegister 4, .apply ⟨.gate .cx, [1], []⟩,
      .measureAll, .apply ⟨.measure, [2, 2], [0, 1]⟩]
  exact ⟨hn, by decide, by decide, hsum, hexact⟩

/-! ## Pairs of qubits and bits -/

/-- **The measurements of a circuit are paired unless they came unpaired.** The targets of a
measurement that was not applied as it stands leave out none of its operands. A measurement that
is applied as it stands is accepted for its operands alone, paired or not, while qubits and bits
that are yet to become a measurement are refused if they cannot be paired, and the circuit stays
as it was. -/
theorem foldl_perform_isPaired (name : String) (numQubits numClbits : Nat)
    (os : List Operation) :
    let c := os.foldl perform (withSize name numQubits numClbits)
    (∀ i ∈ c.instructions, i.kind = .measure → .apply i ∉ os →
      i.targets.unzip = (i.qubits, i.clbits)) ∧
    (∀ i, i.kind = .measure →
      (c.attempt (.apply i) = .ok (c.push i) ↔
        i.qubits.Nodup ∧ (∀ q ∈ i.qubits, q < c.numQubits) ∧ ∀ b ∈ i.clbits, b < c.numClbits)) ∧
    ∀ qubits clbits, qubits.length ≠ clbits.length →
      c.attempt (.measureMany qubits clbits)
          = .error (.measureArity qubits.length clbits.length) ∧
        c.perform (.measureMany qubits clbits) = c := by
  intro c
  refine ⟨?_, ?_, ?_⟩
  · intro i hi hkind hnew
    rcases isPaired_of_mem_foldl_perform hi with hmem | happlied | hpaired
    · exact absurd hmem List.not_mem_nil
    · exact absurd happlied hnew
    · exact hpaired.unzip_targets hkind
  · intro i hkind
    rw [attempt, apply_eq_push_iff]
    constructor
    · intro h
      exact ⟨h.nodup, h.qubits_lt, h.clbits_lt⟩
    · rintro ⟨hnodup, hqubits, hclbits⟩
      exact ⟨by simp [hkind], hqubits, hclbits, hnodup⟩
  · intro qubits clbits hlen
    have hrefused := measureMany_of_length_ne (c := c) hlen
    exact ⟨hrefused, by simp only [perform, attempt, hrefused]⟩

/-- Two qubits measured into one bit: the instruction is accepted as it stands, and its targets
leave out the second qubit. -/
theorem foldl_perform_unpaired :
    let i : Instruction := ⟨.measure, [0, 1], [0]⟩
    let c := [Operation.applyGate .x [1], .apply i].foldl perform (withSize "pair" 2 1)
    i ∈ c.instructions ∧ i.kind = .measure ∧ i.qubits.length ≠ i.clbits.length ∧
      i.targets = [(0, 0)] ∧
      (withSize "pair" 2 1).attempt (.apply i) ≠ .error (.measureArity 2 1) := by
  decide

end Circuit

end QuantumBlocks
