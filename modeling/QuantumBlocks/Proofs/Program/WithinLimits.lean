import QuantumBlocks.Proofs.Program.Meaning

/-!
# Circuits within the limits

A program is held against the limits as a whole, before it is compiled and without regard to what
the compiler will drop of it. The circuit that is left comes from one of the creation blocks and
from some of the blocks that were counted, so it is within the limits too.

* `validate_eq_ok_iff` — which programs are let pass
* `withinLimits_of_compile` — the circuit of such a program is within the limits
-/

namespace QuantumBlocks

/-- A circuit that some limits allow: it has one qubit or more but not too many, not too many
gates, and registers that each hold a reading of all qubits. -/
structure Circuit.WithinLimits (c : Circuit) (limits : Limits) : Prop where
  one_le_numQubits : 1 ≤ c.numQubits
  numQubits_le : c.numQubits ≤ limits.maxQubits
  numGates_le : c.numGates ≤ limits.maxGates
  registers_eq : ∀ size ∈ c.registers, size = c.numQubits

/-! ## Validation -/

theorem any_asksTooMuch_eq_false_iff {limits : Limits} {p : List Block} :
    p.any (Block.asksTooMuch limits) = false ↔
      ∀ n, .createCircuit n ∈ p → n ≤ (limits.maxQubits : Int) := by
  rw [List.any_eq_false]
  constructor
  · intro h n hn
    have hsmall := h _ hn
    simpa [Block.asksTooMuch] using hsmall
  · intro h b hb
    cases b with
    | createCircuit n => simpa [Block.asksTooMuch] using h n hb
    | gate g => simp [Block.asksTooMuch]
    | measureAll => simp [Block.asksTooMuch]
    | unrecognized opcode => simp [Block.asksTooMuch]

/-- The three verdicts on a typed program, the qubits before the gates. -/
theorem validate_verdicts (limits : Limits) (p : List Block) :
    (validate limits p = .error (.tooManyQubits limits.maxQubits) ↔
      p.any (Block.asksTooMuch limits) = true) ∧
    (validate limits p = .error (.tooManyGates limits.maxGates) ↔
      ¬p.any (Block.asksTooMuch limits) = true ∧
        limits.maxGates < p.countP Block.countsAsGate) ∧
    (validate limits p = .ok () ↔
      ¬p.any (Block.asksTooMuch limits) = true ∧
        p.countP Block.countsAsGate ≤ limits.maxGates) := by
  unfold validate
  cases p.any (Block.asksTooMuch limits) with
  | true => simp
  | false =>
    by_cases hgates : limits.maxGates < p.countP Block.countsAsGate
    · simp [hgates, Nat.not_le.mpr hgates]
    · simp [hgates, Nat.not_lt.mp hgates]

/-- **A program is let pass** if no creation block asks for too many qubits and the blocks that
count as gates are not too many. -/
theorem validate_eq_ok_iff {limits : Limits} {p : List Block} :
    validate limits p = .ok () ↔
      (∀ n, .createCircuit n ∈ p → n ≤ (limits.maxQubits : Int)) ∧
        p.countP Block.countsAsGate ≤ limits.maxGates := by
  rw [(validate_verdicts limits p).2.2, Bool.not_eq_true, any_asksTooMuch_eq_false_iff]

/-! ## Compilation -/

/-- Blocks give no more gates than they are counted for; unknown ones are counted and give none. -/
theorem countP_instructionsOf_le (n k : Nat) (segment : List Block) :
    (instructionsOf n k segment).countP (fun i => !i.isMeasure)
      ≤ segment.countP Block.countsAsGate := by
  induction segment generalizing k with
  | nil => exact Nat.le_refl _
  | cons b rest ih =>
    have hcount : rest.countP Block.countsAsGate ≤ (b :: rest).countP Block.countsAsGate :=
      (List.sublist_cons_self b rest).countP_le
    cases b with
    | createCircuit m => exact (ih k).trans hcount
    | gate g =>
      have hgate : g.instruction.isMeasure = false := rfl
      rw [instructionsOf, List.countP_cons_of_pos (by rw [hgate]; rfl),
        List.countP_cons_of_pos (by rfl)]
      exact Nat.succ_le_succ (ih k)
    | measureAll =>
      have hmeasure : (measurementInto n k).isMeasure = true := rfl
      rw [instructionsOf, List.countP_cons_of_neg (by simp [hmeasure])]
      exact (ih (k + 1)).trans hcount
    | unrecognized opcode => exact (ih k).trans hcount

theorem numGates_segmentCircuit_le (n : Nat) (segment : List Block) :
    (segmentCircuit n segment).numGates ≤ segment.countP Block.countsAsGate :=
  countP_instructionsOf_le n 0 segment

theorem lastSegment_sublist (p : List Block) : (lastSegment p).Sublist p :=
  (List.rtakeWhile_suffix _ _).sublist

/-- **The circuit of a program that is let pass is within the limits.** -/
theorem withinLimits_of_compile {limits : Limits} {p : List Block} {c : Circuit}
    (hvalid : validate limits p = .ok ()) (hc : compile p = .ok (some c)) :
    c.WithinLimits limits := by
  obtain ⟨hqubits, hgates⟩ := validate_eq_ok_iff.mp hvalid
  obtain ⟨hplaced, n, hn, rfl⟩ := compile_eq_some_iff.mp hc
  refine ⟨?_, ?_, ?_, ?_⟩
  · have hpos := hplaced.one_le hn
    show 1 ≤ n
    omega
  · have hle := hqubits n (lastCreation?_mem hn)
    show n ≤ limits.maxQubits
    omega
  · calc (segmentCircuit n (lastSegment p)).numGates
        ≤ (lastSegment p).countP Block.countsAsGate := numGates_segmentCircuit_le n _
      _ ≤ p.countP Block.countsAsGate := (lastSegment_sublist p).countP_le
      _ ≤ limits.maxGates := hgates
  · intro size hsize
    exact List.eq_of_mem_replicate hsize

end QuantumBlocks
