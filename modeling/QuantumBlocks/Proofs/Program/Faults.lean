import QuantumBlocks.Proofs.Program.Meaning

/-!
# What is wrong with a program

A program that does not compile has a first block that is at fault where it stands, and the error
is the one of that block: later blocks do not matter, not even a creation block that would have
dropped the faulty one. The compiler holds a gate against its circuit before the circuit does, so
the circuit itself never has anything to refuse.

* `Block.Errs` — what can be wrong with a block where it stands
* `Circuit.addGate_eq_error_iff` — the mistake that a gate block is refused for
* `compile_eq_error_iff` — the error of a program is that of its first faulty block
-/

namespace QuantumBlocks

open Number

/-! ## Blocks at fault -/

/-- What is wrong with a gate block on `n` qubits: the first qubit that is not one of them, or a
control that is its own target. -/
inductive GateBlock.Errs (n : Int) : GateBlock → ProgramError → Prop where
  | outOfRange {g : GateBlock} {front back : List Int} {q : Int}
      (hoperands : g.operands = front ++ q :: back) (hfront : ∀ a ∈ front, 0 ≤ a ∧ a < n)
      (hq : ¬(0 ≤ q ∧ q < n)) : Errs n g (.qubitOutOfRange q n.toNat)
  | sameQubit {q : Int} (hq : 0 ≤ q ∧ q < n) : Errs n (.cx q q) .sameControlTarget

/-- What is wrong with a block where it stands, `current` being what the nearest creation block
before it asks for. Without one there is no circuit yet, and a gate is never wrong. -/
inductive Block.Errs (current : Option Int) : Block → ProgramError → Prop where
  | creation {numQubits : Int} (h : ¬(1 ≤ numQubits ∧ numQubits ≤ maxUnsigned32)) :
      Errs current (.createCircuit numQubits) (.invalidQubitCount numQubits)
  | gate {n : Int} {g : GateBlock} {e : ProgramError} (hn : current = some n) (h : g.Errs n e) :
      Errs current (.gate g) e

variable {c : Circuit} {g : GateBlock} {e : ProgramError} {n : Int}

theorem GateBlock.errs_single_iff (hoperands : g.operands = [n]) {m : Int} :
    g.Errs m e ↔ ¬(0 ≤ n ∧ n < m) ∧ e = .qubitOutOfRange n m.toNat := by
  constructor
  · intro h
    cases h with
    | outOfRange hsplit _ hq =>
      rw [hoperands] at hsplit
      simp only [List.cons_eq_append_iff, List.nil_eq_append_iff, List.cons.injEq, reduceCtorEq,
        and_false, exists_false, or_false] at hsplit
      obtain ⟨rfl, rfl, rfl⟩ := hsplit
      exact ⟨hq, rfl⟩
    | sameQubit hq => simp [GateBlock.operands] at hoperands
  · rintro ⟨hn, rfl⟩
    have hsplit : g.operands = [] ++ n :: [] := hoperands
    exact .outOfRange hsplit (by simp) hn

theorem GateBlock.errs_cx_iff {control target m : Int} :
    (GateBlock.cx control target).Errs m e ↔
      (¬(0 ≤ control ∧ control < m) ∧ e = .qubitOutOfRange control m.toNat) ∨
      ((0 ≤ control ∧ control < m) ∧
        ((¬(0 ≤ target ∧ target < m) ∧ e = .qubitOutOfRange target m.toNat) ∨
          (0 ≤ target ∧ target < m) ∧ control = target ∧ e = .sameControlTarget)) := by
  constructor
  · intro h
    cases h with
    | outOfRange hsplit hfront hq =>
      -- The qubit at fault is the control, with nothing before it, or else the target.
      simp only [GateBlock.operands, List.cons_eq_append_iff, List.nil_eq_append_iff,
        List.cons.injEq, reduceCtorEq, and_false, exists_false, or_false] at hsplit
      rcases hsplit with ⟨rfl, rfl, rfl⟩ | ⟨_, rfl, rfl, rfl, rfl⟩
      · exact Or.inl ⟨hq, rfl⟩
      · exact Or.inr ⟨hfront _ List.mem_cons_self, Or.inl ⟨hq, rfl⟩⟩
    | sameQubit hq => exact Or.inr ⟨hq, Or.inr ⟨hq, rfl, rfl⟩⟩
  · rintro (⟨hcontrol, rfl⟩ | ⟨hcontrol, ⟨htarget, rfl⟩ | ⟨-, rfl, rfl⟩⟩)
    · have hsplit : (GateBlock.cx control target).operands = [] ++ control :: [target] := rfl
      exact .outOfRange hsplit (by simp) hcontrol
    · have hsplit : (GateBlock.cx control target).operands = [control] ++ target :: [] := rfl
      exact .outOfRange hsplit (by simpa using hcontrol) htarget
    · exact .sameQubit hcontrol

/-- A gate block fits exactly if nothing is wrong with it. -/
theorem GateBlock.fitsIn_iff : g.FitsIn n ↔ ∀ e, ¬g.Errs n e := by
  have hsingle {a : Int} (hoperands : g.operands = [a]) : g.FitsIn n ↔ ∀ e, ¬g.Errs n e := by
    simp [GateBlock.FitsIn, GateBlock.errs_single_iff hoperands, hoperands]
  cases g with
  | h qubit => exact hsingle rfl
  | x qubit => exact hsingle rfl
  | y qubit => exact hsingle rfl
  | z qubit => exact hsingle rfl
  | cx control target =>
    have hfits : (GateBlock.cx control target).FitsIn n ↔
        ((0 ≤ control ∧ control < n) ∧ (0 ≤ target ∧ target < n)) ∧ control ≠ target := by
      simp [GateBlock.FitsIn, GateBlock.operands]
    simp only [hfits, GateBlock.errs_cx_iff]
    by_cases hcontrol : 0 ≤ control ∧ control < n
    · by_cases htarget : 0 ≤ target ∧ target < n
      · simp [hcontrol, htarget]
      · simp [hcontrol, htarget]
    · simp [hcontrol]

/-- A block fits exactly if nothing is wrong with it. -/
theorem Block.fits_iff {current : Option Int} {b : Block} :
    b.Fits current ↔ ∀ e, ¬b.Errs current e := by
  cases b with
  | createCircuit m =>
    constructor
    · rintro hfits e ⟨h⟩
      exact h hfits
    · intro h
      by_contra hm
      exact h _ (.creation hm)
  | gate g =>
    constructor
    · rintro hfits e (_ | ⟨hn, h⟩)
      exact GateBlock.fitsIn_iff.mp (hfits _ hn) e h
    · intro h n hn
      exact GateBlock.fitsIn_iff.mpr fun e he => h e (.gate hn he)
  | measureAll => exact ⟨fun _ e h => (by cases h), fun _ => trivial⟩
  | unrecognized opcode => exact ⟨fun _ e h => (by cases h), fun _ => trivial⟩

/-! ## Single blocks -/

namespace Circuit

/-- What goes on with a qubit fails when the circuit has no such qubit, or from there on. -/
theorem qubit_bind_eq_error_iff {α : Type} {f : Nat → Except ProgramError α} :
    (c.qubit n >>= f) = .error e ↔
      (¬(0 ≤ n ∧ n < c.numQubits) ∧ e = .qubitOutOfRange n c.numQubits) ∨
        (0 ≤ n ∧ n < c.numQubits) ∧ f n.toNat = .error e := by
  unfold qubit
  by_cases h : 0 ≤ n ∧ n < c.numQubits
  · simp [h, bind, Except.bind]
  · simp [h, bind, Except.bind, eq_comm]

/-- The circuit refuses no gate that the compiler has let pass. -/
theorem add_applyGate_ne_error (h : g.FitsIn c.numQubits) :
    add (c.applyGate g.gate (g.operands.map Int.toNat)) ≠ .error e := by
  rw [(add_applyGate_eq_ok_iff h).mpr rfl]
  simp

theorem addGate_single_eq_error_iff (hoperands : g.operands = [n]) :
    (do add (c.applyGate g.gate [← c.qubit n])) = .error e ↔ g.Errs c.numQubits e := by
  rw [GateBlock.errs_single_iff hoperands, Int.toNat_natCast, qubit_bind_eq_error_iff,
    or_iff_left]
  rintro ⟨hn, hadd⟩
  have hfits : g.FitsIn c.numQubits := by simp [GateBlock.FitsIn, hoperands, hn]
  rw [show [n.toNat] = g.operands.map Int.toNat by rw [hoperands]; rfl] at hadd
  exact add_applyGate_ne_error hfits hadd

theorem addGate_cx_eq_error_iff {control target : Int} :
    c.addGate (.cx control target) = .error e ↔
      (GateBlock.cx control target).Errs c.numQubits e := by
  rw [GateBlock.errs_cx_iff, Int.toNat_natCast, addGate, qubit_bind_eq_error_iff,
    qubit_bind_eq_error_iff]
  refine or_congr Iff.rfl (and_congr_right fun hcontrol => ?_)
  refine or_congr Iff.rfl (and_congr_right fun htarget => ?_)
  by_cases hsame : control = target
  · rw [if_pos (by rw [hsame])]
    simp [hsame, throw, throwThe, MonadExceptOf.throw, eq_comm]
  · -- The qubits are compared as numbers of the circuit, the blocks as they were written.
    rw [if_neg (by omega)]
    have hfits : (GateBlock.cx control target).FitsIn c.numQubits := by
      simp [GateBlock.FitsIn, GateBlock.operands, hcontrol, htarget, hsame]
    have hadded := add_applyGate_ne_error (e := e) hfits
    exact iff_of_false hadded fun h => hsame h.1

/-- **A gate block is refused for its first mistake.** -/
theorem addGate_eq_error_iff : c.addGate g = .error e ↔ g.Errs c.numQubits e := by
  cases g with
  | h qubit => exact addGate_single_eq_error_iff (g := .h qubit) rfl
  | x qubit => exact addGate_single_eq_error_iff (g := .x qubit) rfl
  | y qubit => exact addGate_single_eq_error_iff (g := .y qubit) rfl
  | z qubit => exact addGate_single_eq_error_iff (g := .z qubit) rfl
  | cx control target => exact addGate_cx_eq_error_iff

end Circuit

theorem freshCircuit_eq_error_iff :
    freshCircuit n = .error e ↔ ¬(1 ≤ n ∧ n ≤ maxUnsigned32) ∧ e = .invalidQubitCount n := by
  unfold freshCircuit
  split
  · next h => simp [h]
  · next h => simp [h, eq_comm]

theorem map_some_eq_error_iff {ε α : Type} {r : Except ε α} {e : ε} :
    r.map some = .error e ↔ r = .error e := by
  cases r with
  | error e' => simp [Except.map]
  | ok a => simp [Except.map]

/-- Measuring all qubits fails neither in a circuit nor without one. -/
theorem step_measureAll_ne_error (o : Option Circuit) : Block.measureAll.step o ≠ .error e := by
  cases o with
  | none => simp [Block.step]
  | some c =>
    rw [Block.step, Circuit.measureAll_eq_ok]
    simp [Circuit.add, Except.mapError, Except.map]

/-- **A block fails for what is wrong with it where it stands.** -/
theorem step_meaning_eq_error_iff {p : List Block} (hp : WellPlaced p) {b : Block} :
    b.step (meaning p) = .error e ↔ b.Errs (lastCreation? p) e := by
  cases b with
  | createCircuit m =>
    rw [Block.step, map_some_eq_error_iff, freshCircuit_eq_error_iff]
    constructor
    · rintro ⟨h, rfl⟩
      exact .creation h
    · rintro ⟨h⟩
      exact ⟨h, rfl⟩
  | gate g =>
    rw [meaning]
    cases hn : lastCreation? p with
    | none =>
      refine iff_of_false (by simp [Block.step]) ?_
      rintro (_ | ⟨h, -⟩)
      cases h
    | some n =>
      have hsize : ((segmentCircuit n.toNat (lastSegment p)).numQubits : Int) = n :=
        hp.natCast_toNat hn
      rw [Option.map_some, Block.step, map_some_eq_error_iff, Circuit.addGate_eq_error_iff, hsize]
      constructor
      · exact Block.Errs.gate rfl
      · rintro (_ | ⟨h, hg⟩)
        rw [Option.some.inj h]
        exact hg
  | measureAll => exact iff_of_false (step_measureAll_ne_error _) (by rintro ⟨⟩)
  | unrecognized opcode =>
    refine iff_of_false ?_ (by rintro ⟨⟩)
    cases meaning p with
    | none => simp [Block.step]
    | some c => simp [Block.step]

/-! ## Whole programs -/

/-- `e` is what is wrong with the first block of a program with which anything is wrong. -/
def FirstErr (p : List Block) (e : ProgramError) : Prop :=
  ∃ front b back, p = front ++ b :: back ∧ b.Errs (lastCreation? front) e ∧
    ∀ before a between, front = before ++ a :: between → ∀ e', ¬a.Errs (lastCreation? before) e'

/-- A program is well placed exactly if nothing is wrong with any of its blocks. -/
theorem wellPlaced_iff_not_errs {p : List Block} :
    WellPlaced p ↔
      ∀ front b back, p = front ++ b :: back → ∀ e, ¬b.Errs (lastCreation? front) e := by
  simp only [WellPlaced, Block.fits_iff]

/-- **The error of a program is that of its first faulty block.** -/
theorem compile_eq_error_iff {p : List Block} : compile p = .error e ↔ FirstErr p e := by
  rw [compile, foldlM_eq_error_iff]
  constructor
  · rintro ⟨front, b, back, o, hsplit, hfront, hb⟩
    obtain ⟨hplaced, rfl⟩ := compile_eq_ok_iff.mp hfront
    exact ⟨front, b, back, hsplit, (step_meaning_eq_error_iff hplaced).mp hb,
      wellPlaced_iff_not_errs.mp hplaced⟩
  · rintro ⟨front, b, back, hsplit, hb, hnone⟩
    have hplaced := wellPlaced_iff_not_errs.mpr hnone
    exact ⟨front, b, back, meaning front, hsplit, compile_eq_ok_iff.mpr ⟨hplaced, rfl⟩,
      (step_meaning_eq_error_iff hplaced).mpr hb⟩

/-- What is wrong with a block is never what a circuit refuses. -/
theorem Block.Errs.ne_circuit {current : Option Int} {b : Block} (h : b.Errs current e)
    (refusal : CircuitError) : e ≠ .circuit refusal := by
  cases h with
  | creation _ => simp
  | gate _ hg =>
    cases hg with
    | outOfRange _ _ _ => simp
    | sameQubit _ => simp

theorem compile_append_of_error {p : List Block} (h : compile p = .error e) (q : List Block) :
    compile (p ++ q) = .error e := by
  have hfirst : p.foldlM Block.step none = .error e := h
  rw [compile, List.foldlM_append, hfirst]
  rfl

/-- **What a program that does not compile is told.** The error is what is wrong with the first
block that is at fault where it stands, whatever follows. It is never one of the circuit's own,
and measuring all qubits is never at fault. -/
theorem compile_failure (p : List Block) :
    (∀ e, compile p = .error e ↔ FirstErr p e) ∧
    (∀ refusal, compile p ≠ .error (.circuit refusal)) ∧
    (∀ e, compile p = .error e → ∀ q, compile (p ++ q) = .error e) ∧
    ∀ c, compile p = .ok (some c) →
      ∃ d, c.measureAll = .ok d ∧ compile (p ++ [.measureAll]) = .ok (some d) := by
  refine ⟨fun e => compile_eq_error_iff, ?_, fun e he q => compile_append_of_error he q, ?_⟩
  · intro refusal hrefusal
    obtain ⟨front, b, back, -, hb, -⟩ := compile_eq_error_iff.mp hrefusal
    exact hb.ne_circuit refusal rfl
  · intro c hc
    refine ⟨_, c.measureAll_eq_ok, ?_⟩
    rw [compile_concat, hc]
    show (Circuit.add c.measureAll).map some = _
    rw [c.measureAll_eq_ok]
    rfl

example :
    compile [.gate (.h 9), .createCircuit 2, .measureAll, .gate (.cx 1 2), .gate (.cx 1 1),
        .createCircuit 0]
      = .error (.qubitOutOfRange 2 2) := by
  rfl

end QuantumBlocks
