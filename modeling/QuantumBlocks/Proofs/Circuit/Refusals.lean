import QuantumBlocks.Proofs.Circuit.WellFormed

/-!
# What a circuit accepts and what it refuses

The checks of an instruction come one after the other, and each goes through its operands from
the first to the last, so an instruction with several mistakes is refused for one of them: the
first operand that fails the first check.

A circuit that is changed in place keeps whatever was changed before a failure. An instruction is
added only after its last check, so a refusal leaves nothing behind. A measurement of all qubits
adds its register before anything is checked, and leaves nothing half done because it is never
refused.

* `apply_eq_error_iff` — which of several mistakes an instruction is refused for
* `applyInPlace_eq`, `measureAllInPlace_eq` — what is left of a circuit that is changed in place
* `Reachable.operation_outcome` — both operations on a circuit that operations lead to
-/

namespace QuantumBlocks

/-! ## The first of several mistakes -/

/-- `id` is the first of a list of numbers that is not below `n`. -/
def FirstBeyond (n : Nat) (ids : List Nat) (id : Nat) : Prop :=
  ∃ front back, ids = front ++ id :: back ∧ (∀ a ∈ front, a < n) ∧ n ≤ id

/-- `id` is the first of a list that stood there before. -/
def FirstAgain (ids : List Nat) (id : Nat) : Prop :=
  ∃ front back, ids = front ++ id :: back ∧ front.Nodup ∧ id ∈ front

/-- A gate has as many qubits as it acts on; a measurement may have any number. -/
def Instruction.HasArity (i : Instruction) : Prop :=
  ∀ g, i.kind = .gate g → i.qubits.length = g.arity

namespace Circuit

variable {c d : Circuit} {i : Instruction} {e : CircuitError}

/-- Why a circuit refuses an instruction: for its number of qubits before any of its operands, for
a qubit before any bit, and for a qubit that stands twice if nothing else is wrong. -/
inductive Refuses (c : Circuit) (i : Instruction) : CircuitError → Prop where
  | arity {g : Gate} (hkind : i.kind = .gate g) (hlen : i.qubits.length ≠ g.arity) :
      Refuses c i (.qubitCountMismatch g.name g.arity i.qubits.length)
  | qubit {q : Nat} (harity : i.HasArity) (hq : FirstBeyond c.numQubits i.qubits q) :
      Refuses c i (.qubitNotFound q (i.gate?.map Gate.name))
  | clbit {b : Nat} (harity : i.HasArity) (hqubits : ∀ q ∈ i.qubits, q < c.numQubits)
      (hb : FirstBeyond c.numClbits i.clbits b) :
      Refuses c i (.clbitNotFound b (i.gate?.map Gate.name))
  | again {q : Nat} (harity : i.HasArity) (hqubits : ∀ q ∈ i.qubits, q < c.numQubits)
      (hclbits : ∀ b ∈ i.clbits, b < c.numClbits) (hq : FirstAgain i.qubits q) :
      Refuses c i (.duplicateQubit q (i.gate?.map Gate.name))

/-! ## The errors of the checks -/

theorem find?_le_eq_some_iff {n id : Nat} {ids : List Nat} :
    ids.find? (fun a => n ≤ a) = some id ↔ FirstBeyond n ids id := by
  rw [List.find?_eq_some_iff_append]
  constructor
  · rintro ⟨hid, front, back, rfl, hfront⟩
    refine ⟨front, back, rfl, fun a ha => ?_, by simpa using hid⟩
    simpa using hfront a ha
  · rintro ⟨front, back, rfl, hfront, hid⟩
    refine ⟨by simpa using hid, front, back, rfl, fun a ha => ?_⟩
    simpa using hfront a ha

/-- `q` is known after a run of new numbers: it is one of them, or was seen before them. -/
def KnownAfter (seen front : List Nat) (q : Nat) : Prop :=
  front.Nodup ∧ (∀ a ∈ front, a ∉ seen) ∧ (q ∈ seen ∨ q ∈ front)

/-- A new number may be counted to the run or to those seen before it. -/
theorem knownAfter_cons_iff {seen front : List Nat} {a q : Nat} (ha : a ∉ seen) :
    KnownAfter seen (a :: front) q ↔ KnownAfter (a :: seen) front q := by
  have hq : (q ∈ seen ∨ q = a ∨ q ∈ front) ↔ (q = a ∨ q ∈ seen) ∨ q ∈ front := by
    rw [or_left_comm, or_assoc]
  simp only [KnownAfter, List.nodup_cons, List.mem_cons, forall_eq_or_imp, not_or, hq]
  constructor
  · rintro ⟨⟨hfirst, hnodup⟩, ⟨-, hnew⟩, hknown⟩
    refine ⟨hnodup, fun b hb => ⟨?_, hnew b hb⟩, hknown⟩
    rintro rfl
    exact hfirst hb
  · rintro ⟨hnodup, hnew, hknown⟩
    exact ⟨⟨fun hb => (hnew a hb).1 rfl, hnodup⟩, ⟨ha, fun b hb => (hnew b hb).2⟩, hknown⟩

theorem firstRepeated?_eq_some_iff {seen qubits : List Nat} {q : Nat} :
    firstRepeated? seen qubits = some q ↔
      ∃ front back, qubits = front ++ q :: back ∧ KnownAfter seen front q := by
  induction qubits generalizing seen with
  | nil => simp [firstRepeated?]
  | cons a rest ih =>
    unfold firstRepeated?
    by_cases ha : a ∈ seen
    · rw [if_pos ha, Option.some.injEq]
      constructor
      · rintro rfl
        exact ⟨[], rest, rfl, List.nodup_nil, by simp, Or.inl ha⟩
      · rintro ⟨front, back, h, -, hnew, -⟩
        cases front with
        | nil => exact (List.cons.inj h).1
        | cons b front =>
          obtain ⟨rfl, -⟩ := List.cons.inj h
          exact absurd ha (hnew a List.mem_cons_self)
    · rw [if_neg ha, ih]
      constructor
      · rintro ⟨front, back, rfl, hq⟩
        exact ⟨a :: front, back, rfl, (knownAfter_cons_iff ha).mpr hq⟩
      · rintro ⟨front, back, h, hq⟩
        cases front with
        | nil =>
          obtain ⟨rfl, -⟩ := List.cons.inj h
          exact absurd (hq.2.2.resolve_right List.not_mem_nil) ha
        | cons b front =>
          obtain ⟨rfl, rfl⟩ := List.cons.inj h
          exact ⟨front, back, rfl, (knownAfter_cons_iff ha).mp hq⟩

theorem firstRepeated?_nil_eq_some_iff {qubits : List Nat} {q : Nat} :
    firstRepeated? [] qubits = some q ↔ FirstAgain qubits q := by
  simp only [firstRepeated?_eq_some_iff, KnownAfter, FirstAgain, List.not_mem_nil,
    not_false_eq_true, implies_true, true_and, false_or]

/-- A count of qubits that fits a word is not cut. -/
theorem wordCount_of_lt {qubits : List Nat} (h : qubits.length < Nat.pow 2 32) :
    wordCount qubits = qubits.length :=
  Nat.mod_eq_of_lt h

theorem checkArity_eq_error_iff (h : i.qubits.length < Nat.pow 2 32) :
    checkArity i = .error e ↔
      ∃ g, i.kind = .gate g ∧ i.qubits.length ≠ g.arity ∧
        e = .qubitCountMismatch g.name g.arity i.qubits.length := by
  unfold checkArity
  rw [wordCount_of_lt h]
  cases i.kind with
  | measure => simp
  | gate g =>
    by_cases hlen : i.qubits.length = g.arity
    · simp [hlen]
    · simp [hlen, eq_comm]

theorem checkQubits_eq_error_iff :
    c.checkQubits i = .error e ↔
      ∃ q, FirstBeyond c.numQubits i.qubits q ∧ e = .qubitNotFound q (i.gate?.map Gate.name) := by
  simp only [← find?_le_eq_some_iff]
  unfold checkQubits
  cases i.qubits.find? fun q => c.numQubits ≤ q with
  | none => simp
  | some q => simp [eq_comm]

theorem checkClbits_eq_error_iff :
    c.checkClbits i = .error e ↔
      ∃ b, FirstBeyond c.numClbits i.clbits b ∧ e = .clbitNotFound b (i.gate?.map Gate.name) := by
  simp only [← find?_le_eq_some_iff]
  unfold checkClbits
  cases i.clbits.find? fun b => c.numClbits ≤ b with
  | none => simp
  | some b => simp [eq_comm]

theorem checkDistinct_eq_error_iff :
    checkDistinct i = .error e ↔
      ∃ q, FirstAgain i.qubits q ∧ e = .duplicateQubit q (i.gate?.map Gate.name) := by
  simp only [← firstRepeated?_nil_eq_some_iff]
  unfold checkDistinct
  cases firstRepeated? [] i.qubits with
  | none => simp
  | some q => simp [eq_comm]

theorem checkArity_eq_ok_iff_hasArity (h : i.qubits.length < Nat.pow 2 32) :
    checkArity i = .ok () ↔ i.HasArity := by
  rw [checkArity_eq_ok_iff, wordCount_of_lt h]
  exact Iff.rfl

theorem check_eq_error_iff (h : i.qubits.length < Nat.pow 2 32) :
    c.check i = .error e ↔ c.Refuses i e := by
  have harity := checkArity_eq_ok_iff_hasArity h
  simp only [check, bind_eq_error_iff]
  constructor
  · rintro (h1 | ⟨_, h1, h2 | ⟨_, h2, h3 | ⟨_, h3, h4⟩⟩⟩)
    · obtain ⟨g, hkind, hlen, rfl⟩ := (checkArity_eq_error_iff h).mp h1
      exact .arity hkind hlen
    · obtain ⟨q, hq, rfl⟩ := checkQubits_eq_error_iff.mp h2
      exact .qubit (harity.mp h1) hq
    · obtain ⟨b, hb, rfl⟩ := checkClbits_eq_error_iff.mp h3
      exact .clbit (harity.mp h1) (checkQubits_eq_ok_iff.mp h2) hb
    · obtain ⟨q, hq, rfl⟩ := checkDistinct_eq_error_iff.mp h4
      exact .again (harity.mp h1) (checkQubits_eq_ok_iff.mp h2) (checkClbits_eq_ok_iff.mp h3) hq
  · intro hrefuses
    cases hrefuses with
    | arity hkind hlen => exact Or.inl ((checkArity_eq_error_iff h).mpr ⟨_, hkind, hlen, rfl⟩)
    | qubit h1 hq =>
      exact Or.inr ⟨(), harity.mpr h1, Or.inl (checkQubits_eq_error_iff.mpr ⟨_, hq, rfl⟩)⟩
    | clbit h1 h2 hb =>
      refine Or.inr ⟨(), harity.mpr h1, Or.inr ⟨(), checkQubits_eq_ok_iff.mpr h2, Or.inl ?_⟩⟩
      exact checkClbits_eq_error_iff.mpr ⟨_, hb, rfl⟩
    | again h1 h2 h3 hq =>
      refine Or.inr ⟨(), harity.mpr h1, Or.inr ⟨(), checkQubits_eq_ok_iff.mpr h2, Or.inr ?_⟩⟩
      exact ⟨(), checkClbits_eq_ok_iff.mpr h3, checkDistinct_eq_error_iff.mpr ⟨_, hq, rfl⟩⟩

/-- **An instruction is refused for its first mistake.** -/
theorem apply_eq_error_iff (h : i.qubits.length < Nat.pow 2 32) :
    c.apply i = .error e ↔ c.Refuses i e := by
  rw [← check_eq_error_iff h]
  unfold apply
  cases c.check i with
  | ok _ => simp
  | error e' => simp

/-! ## Circuits that are changed in place -/

/-- Adds an instruction to a circuit that is changed in place. -/
def applyInPlace (i : Instruction) : EStateM CircuitError Circuit Unit := do
  let c ← get
  liftExcept (checkArity i)
  liftExcept (c.checkQubits i)
  liftExcept (c.checkClbits i)
  liftExcept (checkDistinct i)
  set (c.push i)

/-- Measures all qubits of a circuit that is changed in place: the register is added first, and
would stay if the measurement were refused. -/
def measureAllInPlace : EStateM CircuitError Circuit Unit := do
  let c ← get
  set (c.addRegister c.numQubits)
  let i ← liftExcept
    (Instruction.measureMany (List.range c.numQubits) (List.range' c.numClbits c.numQubits))
  applyInPlace i

/-- Checks that are made one after the other are one check. -/
theorem liftExcept_bind {ε σ α β : Type} (x : Except ε α) (f : α → Except ε β) :
    (liftExcept (x >>= f) : EStateM ε σ β) = (do liftExcept (f (← liftExcept x))) := by
  cases x with
  | error e => rfl
  | ok a => rfl

theorem applyInPlace_eq_check (i : Instruction) :
    applyInPlace i = (do
      let c ← get
      liftExcept (c.check i)
      set (c.push i)) := by
  simp only [applyInPlace, check, liftExcept_bind, bind_assoc]

/-- **A refusal leaves the circuit as it was**, and an instruction that is accepted leaves the
circuit that it was added to. -/
theorem applyInPlace_eq (i : Instruction) (c : Circuit) :
    applyInPlace i c =
      match c.apply i with
      | .ok d => .ok () d
      | .error e => .error e c := by
  rw [applyInPlace_eq_check]
  show (do liftExcept (c.check i); set (c.push i) : EStateM CircuitError Circuit Unit) c = _
  unfold apply
  cases c.check i with
  | ok _ => rfl
  | error e => rfl

/-- **Measuring all qubits leaves nothing half done.** The register that was added first has the
bits that the measurement needs. -/
theorem measureAllInPlace_eq (c : Circuit) :
    measureAllInPlace c =
      .ok () ((c.addRegister c.numQubits).push (readout c.numQubits c.numClbits)) := by
  show (do
    applyInPlace (← liftExcept (Instruction.measureMany (List.range c.numQubits)
      (List.range' c.numClbits c.numQubits))) : EStateM CircuitError Circuit Unit)
    (c.addRegister c.numQubits) = _
  rw [measureMany_readout]
  show applyInPlace (readout c.numQubits c.numClbits) (c.addRegister c.numQubits) = _
  rw [applyInPlace_eq, apply_readout]

/-! ## Both operations -/

theorem exists_apply_eq_ok_iff (h : i.qubits.length < Nat.pow 2 32) :
    (∃ d, c.apply i = .ok d) ↔
      i.HasArity ∧ (∀ q ∈ i.qubits, q < c.numQubits) ∧ (∀ b ∈ i.clbits, b < c.numClbits) ∧
        i.qubits.Nodup := by
  constructor
  · rintro ⟨d, hd⟩
    have hfits := check_eq_ok_iff.mp (apply_eq_ok_iff.mp hd).1
    refine ⟨fun g hg => ?_, hfits.qubits_lt, hfits.clbits_lt, hfits.nodup⟩
    rw [← wordCount_of_lt h]
    exact hfits.arity g hg
  · rintro ⟨harity, hqubits, hclbits, hnodup⟩
    refine ⟨c.push i, apply_of_fits ⟨fun g hg => ?_, hqubits, hclbits, hnodup⟩⟩
    rw [wordCount_of_lt h]
    exact harity g hg

/-- **What comes of an instruction and of measuring all qubits.** An instruction is accepted
exactly if its number of qubits is right, its qubits and bits belong to the circuit, and no qubit
stands twice; then it is added at the end and nothing else changes. Otherwise it is refused for
its first mistake and nothing changes. Measuring all qubits is always accepted: it adds one
register with a bit for each qubit, and one measurement of each qubit into the bit of its number
there. -/
theorem Reachable.operation_outcome (hc : Reachable c) (h : i.qubits.length < Nat.pow 2 32) :
    ((∃ d, c.apply i = .ok d) ↔
      i.HasArity ∧ (∀ q ∈ i.qubits, q < c.numQubits) ∧ (∀ b ∈ i.clbits, b < c.numClbits) ∧
        i.qubits.Nodup) ∧
    (∀ d, c.apply i = .ok d →
      d = { c with instructions := c.instructions ++ [i] } ∧ applyInPlace i c = .ok () d) ∧
    (∀ e, c.apply i = .error e ↔ c.Refuses i e) ∧
    (∀ e, c.apply i = .error e → applyInPlace i c = .error e c) ∧
    ∃ d reading, c.measureAll = .ok d ∧ measureAllInPlace c = .ok () d ∧
      d = { c with
        numClbits := c.numClbits + c.numQubits
        registers := c.registers ++ [c.numQubits]
        instructions := c.instructions ++ [reading] } ∧
      reading.kind = .measure ∧ reading.qubits = List.range c.numQubits ∧
      reading.clbits = (List.range c.numQubits).map fun k => c.registers.sum + k := by
  refine ⟨exists_apply_eq_ok_iff h, ?_, fun e => apply_eq_error_iff h, ?_, ?_⟩
  · intro d hd
    obtain ⟨-, rfl⟩ := apply_eq_ok_iff.mp hd
    refine ⟨rfl, ?_⟩
    rw [applyInPlace_eq, hd]
  · intro e he
    rw [applyInPlace_eq, he]
  · refine ⟨_, readout c.numQubits c.numClbits, measureAll_eq_ok c, measureAllInPlace_eq c, rfl,
      rfl, rfl, ?_⟩
    rw [hc.wellFormed.sum_registers, readout, List.range'_eq_map_range]

/-- An instruction with a bit that the circuit has not and with a qubit that stands twice, on a
circuit with three registers. -/
theorem operation_outcome_two_mistakes :
    let c := [Operation.addRegister 2, .applyGate .h [0], .measureAll].foldl perform
      (withSize "three" 3 1)
    let i : Instruction := ⟨.measure, [0, 2, 0], [5, 6, 7]⟩
    Reachable c ∧ i.qubits.length < Nat.pow 2 32 ∧ c.apply i = .error (.clbitNotFound 6 none) ∧
      applyInPlace i c = .error (.clbitNotFound 6 none) c ∧
      ∃ d, measureAllInPlace c = .ok () d ∧ d.registers = [1, 2, 3, 3] := by
  intro c i
  have hc : Reachable c := (Reachable.create "three" 3 1).foldl _
  have h : i.qubits.length < Nat.pow 2 32 := by decide
  obtain ⟨-, -, hrefused, hleft, d, reading, -, hmeasured, hd, -⟩ := hc.operation_outcome h
  have hmistake : c.apply i = .error (.clbitNotFound 6 none) := by
    refine (hrefused _).mpr (.clbit ?_ ?_ ⟨[5], [7], rfl, ?_, ?_⟩)
    · intro g hg
      cases hg
    · decide
    · decide
    · decide
  refine ⟨hc, h, hmistake, hleft _ hmistake, d, hmeasured, ?_⟩
  rw [hd]
  rfl

end Circuit

end QuantumBlocks
