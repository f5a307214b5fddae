import QuantumBlocks.Proofs.Steps
import Mathlib.Algebra.GroupWithZero.Nat
import Mathlib.Data.List.Nodup

/-!
# Well-formed circuits

An instruction is checked when it is applied and a register is counted when it is added, so a
circuit that was built step by step never names a qubit or a bit that it does not have.

* `check_eq_ok_iff` — the checks let pass exactly the instructions that fit
* `measureAll_eq_ok` — measuring all qubits never fails
* `Reachable.wellFormed` — whatever was asked of a circuit, it stays well-formed
-/

namespace QuantumBlocks

/-! ## Instructions that fit -/

/-- What an instruction needs of a circuit with some qubits and classical bits. -/
structure Instruction.Fits (i : Instruction) (numQubits numClbits : Nat) : Prop where
  arity : ∀ g, i.kind = .gate g → Circuit.wordCount i.qubits = g.arity
  qubits_lt : ∀ q ∈ i.qubits, q < numQubits
  clbits_lt : ∀ b ∈ i.clbits, b < numClbits
  nodup : i.qubits.Nodup

/-- An instruction that fits still fits when classical bits are added. -/
theorem Instruction.Fits.mono {i : Instruction} {n m k : Nat} (h : i.Fits n m) (hk : m ≤ k) :
    i.Fits n k :=
  ⟨h.arity, h.qubits_lt, fun b hb => Nat.lt_of_lt_of_le (h.clbits_lt b hb) hk, h.nodup⟩

/-- A gate that fits has all operands that it acts on, even if there are more than a word counts. -/
theorem Instruction.Fits.arity_le {i : Instruction} {n m : Nat} (h : i.Fits n m) {g : Gate}
    (hkind : i.kind = .gate g) : g.arity ≤ i.qubits.length := by
  rw [← h.arity g hkind]
  exact Nat.mod_le _ _

namespace Circuit

/-! ## The checks -/

theorem checkArity_eq_ok_iff {i : Instruction} :
    checkArity i = .ok () ↔ ∀ g, i.kind = .gate g → wordCount i.qubits = g.arity := by
  unfold checkArity
  cases hk : i.kind with
  | measure => simp
  | gate g =>
    by_cases h : wordCount i.qubits = g.arity
    · simp [h]
    · simp [h]

theorem find?_le_eq_none_iff {n : Nat} {ids : List Nat} :
    ids.find? (fun id => n ≤ id) = none ↔ ∀ id ∈ ids, id < n := by
  simp [List.find?_eq_none]

theorem checkQubits_eq_ok_iff {c : Circuit} {i : Instruction} :
    c.checkQubits i = .ok () ↔ ∀ q ∈ i.qubits, q < c.numQubits := by
  unfold checkQubits
  rw [← find?_le_eq_none_iff]
  cases i.qubits.find? fun q => c.numQubits ≤ q with
  | none => simp
  | some q => simp

theorem checkClbits_eq_ok_iff {c : Circuit} {i : Instruction} :
    c.checkClbits i = .ok () ↔ ∀ b ∈ i.clbits, b < c.numClbits := by
  unfold checkClbits
  rw [← find?_le_eq_none_iff]
  cases i.clbits.find? fun b => c.numClbits ≤ b with
  | none => simp
  | some b => simp

/-- No element is found to be repeated when all are new and distinct. -/
theorem firstRepeated?_eq_none_iff {seen qubits : List Nat} :
    firstRepeated? seen qubits = none ↔ qubits.Nodup ∧ ∀ q ∈ qubits, q ∉ seen := by
  induction qubits generalizing seen with
  | nil => simp [firstRepeated?]
  | cons q rest ih =>
    unfold firstRepeated?
    by_cases hq : q ∈ seen
    · simp [hq]
    · rw [if_neg hq, ih, List.nodup_cons]
      constructor
      · rintro ⟨hnodup, hnew⟩
        refine ⟨⟨fun hmem => hnew q hmem List.mem_cons_self, hnodup⟩, ?_⟩
        intro r hr
        rcases List.mem_cons.mp hr with rfl | hr
        · exact hq
        · exact fun hs => hnew r hr (List.mem_cons_of_mem _ hs)
      · rintro ⟨⟨hnot, hnodup⟩, hnew⟩
        refine ⟨hnodup, fun r hr hs => ?_⟩
        rcases List.mem_cons.mp hs with rfl | hs
        · exact hnot hr
        · exact hnew r (List.mem_cons_of_mem _ hr) hs

theorem checkDistinct_eq_ok_iff {i : Instruction} :
    checkDistinct i = .ok () ↔ i.qubits.Nodup := by
  have h : firstRepeated? [] i.qubits = none ↔ i.qubits.Nodup := by
    simp [firstRepeated?_eq_none_iff]
  unfold checkDistinct
  rw [← h]
  cases firstRepeated? [] i.qubits with
  | none => simp
  | some q => simp

/-- **The checks let pass exactly the instructions that fit.** -/
theorem check_eq_ok_iff {c : Circuit} {i : Instruction} :
    c.check i = .ok () ↔ i.Fits c.numQubits c.numClbits := by
  unfold check
  constructor
  · intro h
    obtain ⟨_, h1, h⟩ := bind_eq_ok_iff.mp h
    obtain ⟨_, h2, h⟩ := bind_eq_ok_iff.mp h
    obtain ⟨_, h3, h4⟩ := bind_eq_ok_iff.mp h
    exact ⟨checkArity_eq_ok_iff.mp h1, checkQubits_eq_ok_iff.mp h2, checkClbits_eq_ok_iff.mp h3,
      checkDistinct_eq_ok_iff.mp h4⟩
  · rintro ⟨h1, h2, h3, h4⟩
    refine bind_eq_ok_iff.mpr ⟨(), checkArity_eq_ok_iff.mpr h1, ?_⟩
    refine bind_eq_ok_iff.mpr ⟨(), checkQubits_eq_ok_iff.mpr h2, ?_⟩
    exact bind_eq_ok_iff.mpr ⟨(), checkClbits_eq_ok_iff.mpr h3, checkDistinct_eq_ok_iff.mpr h4⟩

/-- A gate on as many distinct qubits of the circuit as it acts on fits. -/
theorem gate_fits {g : Gate} {qubits : List Nat} {n m : Nat} (hlen : qubits.length = g.arity)
    (hlt : ∀ q ∈ qubits, q < n) (hnodup : qubits.Nodup) :
    (Instruction.gate g qubits).Fits n m := by
  refine ⟨?_, hlt, by simp [Instruction.gate], hnodup⟩
  intro f hf
  rw [Instruction.gate, InstructionKind.gate.injEq] at hf
  rw [← hf, wordCount, Instruction.gate, hlen]
  cases g <;> rfl

/-- An instruction that fits is added at the end. -/
theorem apply_of_fits {c : Circuit} {i : Instruction} (h : i.Fits c.numQubits c.numClbits) :
    c.apply i = .ok (c.push i) :=
  apply_eq_ok_iff.mpr ⟨check_eq_ok_iff.mpr h, rfl⟩

/-! ## Measuring all qubits -/

/-- The measurement of all of `n` qubits, the first one into the bit `first`. -/
def readout (n first : Nat) : Instruction := ⟨.measure, List.range n, List.range' first n⟩

theorem readout_fits (n first : Nat) : (readout n first).Fits n (first + n) where
  arity := by simp [readout]
  qubits_lt := by simp [readout]
  clbits_lt := by
    intro b hb
    simp only [readout, List.mem_range'_1] at hb
    exact hb.2
  nodup := List.nodup_range

theorem measureMany_readout (n first : Nat) :
    Instruction.measureMany (List.range n) (List.range' first n) = .ok (readout n first) := by
  simp [Instruction.measureMany, readout]

/-- The new register has exactly the bits that the measurement names. -/
theorem apply_readout (c : Circuit) :
    (c.addRegister c.numQubits).apply (readout c.numQubits c.numClbits)
      = .ok ((c.addRegister c.numQubits).push (readout c.numQubits c.numClbits)) :=
  apply_of_fits (readout_fits c.numQubits c.numClbits)

/-- **Measuring all qubits never fails.** It adds a register and one instruction. -/
theorem measureAll_eq_ok (c : Circuit) :
    c.measureAll = .ok ((c.addRegister c.numQubits).push (readout c.numQubits c.numClbits)) := by
  unfold measureAll measureMany
  rw [measureMany_readout]
  exact apply_readout c

/-! ## Circuits that hold together -/

/-- The registers make up the classical bits, and every instruction fits. -/
structure WellFormed (c : Circuit) : Prop where
  sum_registers : c.registers.sum = c.numClbits
  fits : ∀ i ∈ c.instructions, i.Fits c.numQubits c.numClbits

theorem wellFormed_withSize (name : String) (numQubits numClbits : Nat) :
    (withSize name numQubits numClbits).WellFormed where
  sum_registers := by
    unfold withSize
    dsimp only
    split
    · simp
    · rw [List.sum_nil]
      omega
  fits := by simp [withSize]

theorem WellFormed.addRegister {c : Circuit} (h : c.WellFormed) (size : Nat) :
    (c.addRegister size).WellFormed where
  sum_registers := by simp [Circuit.addRegister, h.sum_registers]
  fits := fun i hi => (h.fits i hi).mono (Nat.le_add_right _ _)

theorem WellFormed.push {c : Circuit} (h : c.WellFormed) {i : Instruction}
    (hi : i.Fits c.numQubits c.numClbits) : (c.push i).WellFormed where
  sum_registers := h.sum_registers
  fits := by
    intro j hj
    rcases List.mem_append.mp hj with hj | hj
    · exact h.fits j hj
    · rw [List.mem_singleton.mp hj]
      exact hi

/-- Whatever `apply` accepts leaves the circuit well-formed. -/
theorem WellFormed.of_apply {c d : Circuit} (h : c.WellFormed) {i : Instruction}
    (hd : c.apply i = .ok d) : d.WellFormed := by
  obtain ⟨hc, rfl⟩ := apply_eq_ok_iff.mp hd
  exact h.push (check_eq_ok_iff.mp hc)

theorem WellFormed.of_measureAll {c d : Circuit} (h : c.WellFormed) (hd : c.measureAll = .ok d) :
    d.WellFormed := by
  rw [measureAll_eq_ok, Except.ok.injEq] at hd
  rw [← hd]
  exact (h.addRegister c.numQubits).push (readout_fits c.numQubits c.numClbits)

/-! ## Operations -/

/-- What a circuit can be asked to do. -/
inductive Operation where
  | addRegister (size : Nat)
  | apply (i : Instruction)
  | applyGate (g : Gate) (qubits : List Nat)
  | measure (qubit clbit : Nat)
  | measureMany (qubits clbits : List Nat)
  | measureAll

/-- What comes of asking. -/
def attempt (c : Circuit) : Operation → Except CircuitError Circuit
  | .addRegister size => .ok (c.addRegister size)
  | .apply i => c.apply i
  | .applyGate g qubits => c.applyGate g qubits
  | .measure qubit clbit => c.measure qubit clbit
  | .measureMany qubits clbits => c.measureMany qubits clbits
  | .measureAll => c.measureAll

/-- The circuit after an operation; a failed one leaves it as it was. -/
def perform (c : Circuit) (o : Operation) : Circuit :=
  match c.attempt o with
  | .ok d => d
  | .error _ => c

/-- The circuits that operations lead to, failed ones among them. -/
inductive Reachable : Circuit → Prop where
  | create (name : String) (numQubits numClbits : Nat) :
      Reachable (withSize name numQubits numClbits)
  | perform {c : Circuit} (o : Operation) : Reachable c → Reachable (c.perform o)

theorem Reachable.attempt {c d : Circuit} (h : Reachable c) {o : Operation}
    (hd : c.attempt o = .ok d) : Reachable d := by
  have hp := h.perform o
  unfold Circuit.perform at hp
  rw [hd] at hp
  exact hp

/-- Operations lead on from where operations led. -/
theorem Reachable.foldl {c : Circuit} (h : Reachable c) (os : List Operation) :
    Reachable (os.foldl Circuit.perform c) := by
  induction os generalizing c with
  | nil => exact h
  | cons o rest ih => exact ih (.perform o h)

theorem WellFormed.attempt {c d : Circuit} (h : c.WellFormed) {o : Operation}
    (hd : c.attempt o = .ok d) : d.WellFormed := by
  cases o with
  | addRegister size =>
    rw [Circuit.attempt, Except.ok.injEq] at hd
    rw [← hd]
    exact h.addRegister size
  | apply i => exact h.of_apply hd
  | applyGate g qubits => exact h.of_apply hd
  | measure qubit clbit => exact h.of_apply hd
  | measureMany qubits clbits =>
    obtain ⟨i, -, hi⟩ := bind_eq_ok_iff.mp hd
    exact h.of_apply hi
  | measureAll => exact h.of_measureAll hd

/-- **Whatever was asked of a circuit, it stays well-formed.** -/
theorem Reachable.wellFormed {c : Circuit} (h : Reachable c) : c.WellFormed := by
  induction h with
  | create name numQubits numClbits => exact wellFormed_withSize name numQubits numClbits
  | @perform c o _ ih =>
    unfold Circuit.perform
    cases hd : c.attempt o with
    | ok d => exact ih.attempt hd
    | error e => exact ih

end Circuit

end QuantumBlocks
