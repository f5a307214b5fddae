import QuantumBlocks.Program.Compilation
import QuantumBlocks.Proofs.Circuit.WellFormed
import Mathlib.Data.List.DropRight

/-!
# What a program means

A creation block starts over, so of all blocks only those after the last creation block are left
in the circuit. The blocks before it leave a trace all the same: each must fit the circuit that
was at hand when its turn came, or there is no circuit at all.

* `WellPlaced` — every block fits where it stands
* `segmentCircuit` — the circuit of the blocks after a creation block
* `compile_eq_ok_iff` — a program compiles exactly if it is well placed, and then to its meaning

The induction is on the program from its end: one more block is one more step of the compiler.
-/

namespace QuantumBlocks

open Number

/-! ## Where blocks stand -/

/-- The number of qubits that a creation block asks for. -/
def Block.creation? : Block → Option Int
  | .createCircuit numQubits => some numQubits
  | .gate _ | .measureAll | .unrecognized _ => none

/-- What the last creation block of a program asks for. -/
def lastCreation? (p : List Block) : Option Int := (p.filterMap Block.creation?).getLast?

/-- The blocks after the last creation block. -/
def lastSegment (p : List Block) : List Block := p.rtakeWhile fun b => b.creation?.isNone

theorem lastCreation?_createCircuit (p : List Block) (n : Int) :
    lastCreation? (p ++ [.createCircuit n]) = some n := by
  simp [lastCreation?, Block.creation?]

theorem lastCreation?_of_none (p : List Block) {b : Block} (h : b.creation? = none) :
    lastCreation? (p ++ [b]) = lastCreation? p := by
  simp [lastCreation?, h]

theorem lastSegment_createCircuit (p : List Block) (n : Int) :
    lastSegment (p ++ [.createCircuit n]) = [] :=
  List.rtakeWhile_concat_neg _ _ _ (by simp [Block.creation?])

theorem lastSegment_of_none (p : List Block) {b : Block} (h : b.creation? = none) :
    lastSegment (p ++ [b]) = lastSegment p ++ [b] :=
  List.rtakeWhile_concat_pos _ _ _ (by simp [h])

theorem lastCreation?_mem {p : List Block} {n : Int} (h : lastCreation? p = some n) :
    .createCircuit n ∈ p := by
  obtain ⟨b, hb, hn⟩ := List.mem_filterMap.mp (List.mem_of_getLast? h)
  cases b with
  | createCircuit m =>
    rw [Block.creation?, Option.some.injEq] at hn
    exact hn ▸ hb
  | gate g => simp [Block.creation?] at hn
  | measureAll => simp [Block.creation?] at hn
  | unrecognized opcode => simp [Block.creation?] at hn

/-- There is a last creation block unless there is none at all. -/
theorem lastCreation?_eq_none_iff {p : List Block} :
    lastCreation? p = none ↔ ∀ n, .createCircuit n ∉ p := by
  constructor
  · intro h n hn
    have hm : n ∈ p.filterMap Block.creation? := List.mem_filterMap.mpr ⟨_, hn, rfl⟩
    rw [List.getLast?_eq_none_iff.mp h] at hm
    exact absurd hm List.not_mem_nil
  · intro h
    cases hl : lastCreation? p with
    | none => rfl
    | some n => exact absurd (lastCreation?_mem hl) (h n)

/-! ## Blocks that fit -/

namespace GateBlock

/-- The gate that a block applies. -/
def gate : GateBlock → Gate
  | .h _ => .h
  | .x _ => .x
  | .y _ => .y
  | .z _ => .z
  | .cx _ _ => .cx

/-- The qubits that a block names, the control before the target. -/
def operands : GateBlock → List Int
  | .h qubit | .x qubit | .y qubit | .z qubit => [qubit]
  | .cx control target => [control, target]

/-- The qubits that a block names are among `n` of them, and no two are the same. -/
def FitsIn (g : GateBlock) (n : Int) : Prop :=
  (∀ q ∈ g.operands, 0 ≤ q ∧ q < n) ∧ g.operands.Nodup

/-- The instruction of a block whose qubits are at hand. -/
def instruction (g : GateBlock) : Instruction := .gate g.gate (g.operands.map Int.toNat)

end GateBlock

/-- What a block needs where it stands, `current` being what the nearest creation block before it
asks for: a creation block asks for one qubit at least and a word of 32 bits of them at most, and
a gate fits the circuit at hand. -/
def Block.Fits (current : Option Int) : Block → Prop
  | .createCircuit numQubits => 1 ≤ numQubits ∧ numQubits ≤ maxUnsigned32
  | .gate g => ∀ n, current = some n → g.FitsIn n
  | .measureAll | .unrecognized _ => True

/-- Every block of a program fits where it stands. -/
def WellPlaced (p : List Block) : Prop :=
  ∀ front b back, p = front ++ b :: back → b.Fits (lastCreation? front)

theorem wellPlaced_nil : WellPlaced [] := by
  intro front b back h
  simp at h

theorem wellPlaced_concat {p : List Block} {b : Block} :
    WellPlaced (p ++ [b]) ↔ WellPlaced p ∧ b.Fits (lastCreation? p) := by
  constructor
  · intro h
    refine ⟨fun front a back hp => h front a (back ++ [b]) ?_, h p b [] rfl⟩
    rw [hp, List.append_assoc, List.cons_append]
  · rintro ⟨hp, hb⟩ front a back h
    -- Either `a` is the new block itself, or it stands in the program as it was.
    rcases List.eq_nil_or_concat back with rfl | ⟨back, z, rfl⟩
    · obtain ⟨rfl, hab⟩ := List.append_inj' h rfl
      rw [← List.singleton_inj.mp hab]
      exact hb
    · rw [List.concat_eq_append, ← List.cons_append, ← List.append_assoc] at h
      exact hp front a back (List.append_inj' h rfl).1

theorem WellPlaced.one_le {p : List Block} (h : WellPlaced p) {n : Int}
    (hn : lastCreation? p = some n) : 1 ≤ n := by
  obtain ⟨front, back, hp⟩ := List.append_of_mem (lastCreation?_mem hn)
  have hfit : 1 ≤ n ∧ n ≤ maxUnsigned32 := h front _ back hp
  exact hfit.1

theorem WellPlaced.natCast_toNat {p : List Block} (h : WellPlaced p) {n : Int}
    (hn : lastCreation? p = some n) : (n.toNat : Int) = n := by
  have hpos := h.one_le hn
  omega

/-! ## The circuit of a segment -/

/-- The measurement of all of `n` qubits into the register of number `k`. -/
def measurementInto (n k : Nat) : Instruction :=
  ⟨.measure, List.range n, (List.range n).map fun i => k * n + i⟩

/-- The instructions of blocks without a creation block among them, on `n` qubits and with `k`
registers before: a gate gives its instruction, a measurement reads into the next register, and
an unknown block gives nothing. -/
def instructionsOf (n : Nat) : (k : Nat) → List Block → List Instruction
  | _, [] => []
  | k, .gate g :: rest => g.instruction :: instructionsOf n k rest
  | k, .measureAll :: rest => measurementInto n k :: instructionsOf n (k + 1) rest
  | k, .createCircuit _ :: rest | k, .unrecognized _ :: rest => instructionsOf n k rest

/-- How many registers blocks fill. -/
def measurements (p : List Block) : Nat := p.count .measureAll

/-- The circuit of blocks without a creation block among them, on `n` qubits. -/
def segmentCircuit (n : Nat) (segment : List Block) : Circuit where
  name := "scratch"
  numQubits := n
  numClbits := measurements segment * n
  registers := List.replicate (measurements segment) n
  instructions := instructionsOf n 0 segment

theorem instructionsOf_append (n : Nat) (p q : List Block) (k : Nat) :
    instructionsOf n k (p ++ q)
      = instructionsOf n k p ++ instructionsOf n (k + measurements p) q := by
  induction p generalizing k with
  | nil => simp [instructionsOf, measurements]
  | cons b rest ih =>
    cases b with
    | createCircuit m => simp [instructionsOf, ih, measurements]
    | gate g => simp [instructionsOf, ih, measurements]
    | measureAll =>
      simp only [List.cons_append, instructionsOf, ih, measurements, List.count_cons_self]
      rw [Nat.add_right_comm, Nat.add_assoc k]
    | unrecognized opcode => simp [instructionsOf, ih, measurements]

theorem readout_eq (n k : Nat) : Circuit.readout n (k * n) = measurementInto n k := by
  rw [Circuit.readout, measurementInto, List.range'_eq_map_range]

theorem segmentCircuit_gate (n : Nat) (segment : List Block) (g : GateBlock) :
    segmentCircuit n (segment ++ [.gate g]) = (segmentCircuit n segment).push g.instruction := by
  simp [segmentCircuit, Circuit.push, instructionsOf_append, instructionsOf, measurements]

theorem segmentCircuit_unrecognized (n : Nat) (segment : List Block) (opcode : String) :
    segmentCircuit n (segment ++ [.unrecognized opcode]) = segmentCircuit n segment := by
  simp [segmentCircuit, instructionsOf_append, instructionsOf, measurements]

theorem segmentCircuit_measureAll (n : Nat) (segment : List Block) :
    segmentCircuit n (segment ++ [.measureAll])
      = ((segmentCircuit n segment).addRegister n).push
          (Circuit.readout n (measurements segment * n)) := by
  rw [readout_eq]
  simp [segmentCircuit, Circuit.push, Circuit.addRegister, instructionsOf_append, instructionsOf,
    measurements, Nat.add_mul, List.replicate_succ']

/-! ## What single blocks do -/

theorem GateBlock.FitsIn.instruction_fits {g : GateBlock} {n m : Nat} (h : g.FitsIn n) :
    g.instruction.Fits n m := by
  obtain ⟨hrange, hnodup⟩ := h
  refine Circuit.gate_fits ?_ ?_ ?_
  · rw [List.length_map]
    cases g <;> rfl
  · intro q hq
    obtain ⟨a, ha, rfl⟩ := List.mem_map.mp hq
    have := hrange a ha
    omega
  · refine hnodup.map_on fun a ha b hb hab => ?_
    have := hrange a ha
    have := hrange b hb
    omega

namespace Circuit

theorem add_eq_ok_iff {r : Except CircuitError Circuit} {d : Circuit} :
    add r = .ok d ↔ r = .ok d := by
  cases r with
  | error e => simp [add, Except.mapError]
  | ok c => simp [add, Except.mapError]

theorem qubit_eq_ok_iff {c : Circuit} {n : Int} {q : Nat} :
    c.qubit n = .ok q ↔ (0 ≤ n ∧ n < c.numQubits) ∧ q = n.toNat := by
  unfold qubit
  split
  · next h => simp [h, eq_comm]
  · next h => simp [h]

theorem add_applyGate_eq_ok_iff {c d : Circuit} {g : GateBlock} (h : g.FitsIn c.numQubits) :
    add (c.applyGate g.gate (g.operands.map Int.toNat)) = .ok d ↔ d = c.push g.instruction := by
  have hok : c.applyGate g.gate (g.operands.map Int.toNat) = .ok (c.push g.instruction) :=
    apply_of_fits h.instruction_fits
  rw [add_eq_ok_iff, hok, Except.ok.injEq, eq_comm]

theorem addGate_single_eq_ok_iff {c d : Circuit} {g : GateBlock} {n : Int}
    (hoperands : g.operands = [n]) :
    (do add (c.applyGate g.gate [← c.qubit n])) = .ok d ↔
      g.FitsIn c.numQubits ∧ d = c.push g.instruction := by
  have hfit : g.FitsIn c.numQubits ↔ 0 ≤ n ∧ n < c.numQubits := by
    simp [GateBlock.FitsIn, hoperands]
  have hqubits : [n.toNat] = g.operands.map Int.toNat := by
    rw [hoperands]
    rfl
  rw [hfit, bind_eq_ok_iff]
  constructor
  · rintro ⟨q, hq, h⟩
    obtain ⟨hn, rfl⟩ := qubit_eq_ok_iff.mp hq
    rw [hqubits, add_applyGate_eq_ok_iff (hfit.mpr hn)] at h
    exact ⟨hn, h⟩
  · rintro ⟨hn, rfl⟩
    refine ⟨n.toNat, qubit_eq_ok_iff.mpr ⟨hn, rfl⟩, ?_⟩
    rw [hqubits, add_applyGate_eq_ok_iff (hfit.mpr hn)]

theorem addGate_cx_eq_ok_iff {c d : Circuit} {control target : Int} :
    c.addGate (.cx control target) = .ok d ↔
      (GateBlock.cx control target).FitsIn c.numQubits ∧
        d = c.push (GateBlock.cx control target).instruction := by
  have hfit : (GateBlock.cx control target).FitsIn c.numQubits ↔
      ((0 ≤ control ∧ control < c.numQubits) ∧ (0 ≤ target ∧ target < c.numQubits)) ∧
        control ≠ target := by
    simp [GateBlock.FitsIn, GateBlock.operands]
  constructor
  · intro h
    obtain ⟨a, ha, h⟩ := bind_eq_ok_iff.mp h
    obtain ⟨b, hb, h⟩ := bind_eq_ok_iff.mp h
    obtain ⟨hc, rfl⟩ := qubit_eq_ok_iff.mp ha
    obtain ⟨ht, rfl⟩ := qubit_eq_ok_iff.mp hb
    split at h
    · simp [throw, throwThe, MonadExceptOf.throw] at h
    · next hne =>
      -- The qubits are compared as numbers of the circuit, the blocks as they were written.
      have hfits := hfit.mpr ⟨⟨hc, ht⟩, fun e => hne (by rw [e])⟩
      exact ⟨hfits, (add_applyGate_eq_ok_iff hfits).mp h⟩
  · rintro ⟨hfits, hd⟩
    obtain ⟨⟨hc, ht⟩, hne⟩ := hfit.mp hfits
    refine bind_eq_ok_iff.mpr ⟨control.toNat, qubit_eq_ok_iff.mpr ⟨hc, rfl⟩, ?_⟩
    refine bind_eq_ok_iff.mpr ⟨target.toNat, qubit_eq_ok_iff.mpr ⟨ht, rfl⟩, ?_⟩
    rw [if_neg (by omega)]
    exact (add_applyGate_eq_ok_iff hfits).mpr hd

/-- A gate block is accepted exactly if it fits the circuit, and adds its instruction. -/
theorem addGate_eq_ok_iff {c d : Circuit} {g : GateBlock} :
    c.addGate g = .ok d ↔ g.FitsIn c.numQubits ∧ d = c.push g.instruction := by
  cases g with
  | h qubit => exact addGate_single_eq_ok_iff (g := .h qubit) rfl
  | x qubit => exact addGate_single_eq_ok_iff (g := .x qubit) rfl
  | y qubit => exact addGate_single_eq_ok_iff (g := .y qubit) rfl
  | z qubit => exact addGate_single_eq_ok_iff (g := .z qubit) rfl
  | cx control target => exact addGate_cx_eq_ok_iff

end Circuit

theorem freshCircuit_eq_ok_iff {n : Int} {d : Circuit} :
    freshCircuit n = .ok d ↔ (1 ≤ n ∧ n ≤ maxUnsigned32) ∧ d = segmentCircuit n.toNat [] := by
  unfold freshCircuit
  split
  · next h =>
    simp [h, eq_comm, segmentCircuit, Circuit.withSize, measurements, instructionsOf]
  · next h => simp [h]

/-! ## What a whole program means -/

/-- The circuit that the blocks of a well-placed program describe, if one of them creates it. -/
def meaning (p : List Block) : Option Circuit :=
  (lastCreation? p).map fun n => segmentCircuit n.toNat (lastSegment p)

theorem map_some_eq_ok_iff {ε α : Type} {r : Except ε α} {o : Option α} :
    r.map some = .ok o ↔ ∃ a, r = .ok a ∧ o = some a := by
  cases r with
  | error e => simp [Except.map]
  | ok a => simp [Except.map, eq_comm]

/-- **One more block is one more step of the meaning.** -/
theorem step_meaning_eq_ok_iff {p : List Block} (hp : WellPlaced p) {b : Block}
    {o : Option Circuit} :
    b.step (meaning p) = .ok o ↔ b.Fits (lastCreation? p) ∧ o = meaning (p ++ [b]) := by
  cases b with
  | createCircuit n =>
    have hm : meaning (p ++ [.createCircuit n]) = some (segmentCircuit n.toNat []) := by
      rw [meaning, lastCreation?_createCircuit, lastSegment_createCircuit]
      rfl
    rw [hm, Block.step, map_some_eq_ok_iff]
    simp [freshCircuit_eq_ok_iff, Block.Fits, and_assoc]
  | gate g =>
    rw [meaning, meaning, lastCreation?_of_none p rfl, lastSegment_of_none p rfl]
    cases hn : lastCreation? p with
    | none => simp [Block.step, Block.Fits, eq_comm]
    | some n =>
      -- The circuit counts its qubits in `Nat`, the creation block in `Int`.
      have hfit : g.FitsIn (segmentCircuit n.toNat (lastSegment p)).numQubits ↔ g.FitsIn n := by
        show g.FitsIn (n.toNat : Int) ↔ g.FitsIn n
        rw [hp.natCast_toNat hn]
      rw [Option.map_some, Option.map_some, Block.step, map_some_eq_ok_iff]
      simp [Circuit.addGate_eq_ok_iff, hfit, Block.Fits, segmentCircuit_gate, and_assoc]
  | measureAll =>
    rw [meaning, meaning, lastCreation?_of_none p rfl, lastSegment_of_none p rfl]
    cases hn : lastCreation? p with
    | none => simp [Block.step, Block.Fits, eq_comm]
    | some n =>
      rw [Option.map_some, Option.map_some, Block.step, map_some_eq_ok_iff]
      simp only [Circuit.add_eq_ok_iff, Circuit.measureAll_eq_ok, Block.Fits,
        segmentCircuit_measureAll, Except.ok.injEq, exists_eq_left', true_and]
      exact Iff.rfl
  | unrecognized opcode =>
    rw [meaning, meaning, lastCreation?_of_none p rfl, lastSegment_of_none p rfl]
    cases hn : lastCreation? p with
    | none => simp [Block.step, Block.Fits, eq_comm]
    | some n => simp [Block.step, Block.Fits, segmentCircuit_unrecognized, eq_comm]

theorem compile_concat (p : List Block) (b : Block) :
    compile (p ++ [b]) = compile p >>= fun current => b.step current := by
  simp [compile]

/-- **A program compiles exactly if it is well placed, and then to its meaning.** -/
theorem compile_eq_ok_iff {p : List Block} {o : Option Circuit} :
    compile p = .ok o ↔ WellPlaced p ∧ o = meaning p := by
  -- The compiler goes from left to right, so the last block is the one that is taken off.
  induction p using List.reverseRecOn generalizing o with
  | nil =>
    have hm : meaning [] = none := rfl
    rw [hm, show compile [] = .ok none from rfl, Except.ok.injEq]
    exact ⟨fun h => ⟨wellPlaced_nil, h.symm⟩, fun h => h.2.symm⟩
  | append_singleton p b ih =>
    rw [compile_concat, bind_eq_ok_iff, wellPlaced_concat]
    constructor
    · rintro ⟨current, hcurrent, hstep⟩
      obtain ⟨hp, rfl⟩ := ih.mp hcurrent
      obtain ⟨hb, ho⟩ := (step_meaning_eq_ok_iff hp).mp hstep
      exact ⟨⟨hp, hb⟩, ho⟩
    · rintro ⟨⟨hp, hb⟩, ho⟩
      exact ⟨meaning p, ih.mpr ⟨hp, rfl⟩, (step_meaning_eq_ok_iff hp).mpr ⟨hb, ho⟩⟩

/-- Where no circuit is created nothing can be out of place. -/
theorem wellPlaced_of_no_creation {p : List Block} (h : ∀ n, .createCircuit n ∉ p) :
    WellPlaced p := by
  intro front b back hp
  have hfront : lastCreation? front = none := by
    refine lastCreation?_eq_none_iff.mpr fun n hn => h n ?_
    rw [hp]
    exact List.mem_append_left _ hn
  cases b with
  | createCircuit n => exact absurd (hp ▸ List.mem_append_right _ List.mem_cons_self) (h n)
  | gate g =>
    intro n hn
    rw [hfront] at hn
    simp at hn
  | measureAll => trivial
  | unrecognized opcode => trivial

theorem meaning_eq_none_iff {p : List Block} :
    meaning p = none ↔ ∀ n, .createCircuit n ∉ p := by
  rw [meaning, Option.map_eq_none_iff, lastCreation?_eq_none_iff]

theorem compile_eq_none_iff {p : List Block} :
    compile p = .ok none ↔ ∀ n, .createCircuit n ∉ p := by
  rw [compile_eq_ok_iff]
  constructor
  · rintro ⟨-, h⟩
    exact meaning_eq_none_iff.mp h.symm
  · intro h
    exact ⟨wellPlaced_of_no_creation h, (meaning_eq_none_iff.mpr h).symm⟩

/-- The circuit of a program is that of its last segment. -/
theorem compile_eq_some_iff {p : List Block} {c : Circuit} :
    compile p = .ok (some c) ↔
      WellPlaced p ∧ ∃ n : Nat, lastCreation? p = some (n : Int) ∧
        c = segmentCircuit n (lastSegment p) := by
  rw [compile_eq_ok_iff, meaning]
  constructor
  · rintro ⟨hp, h⟩
    obtain ⟨n, hn, hc⟩ := Option.map_eq_some_iff.mp h.symm
    refine ⟨hp, n.toNat, ?_, hc.symm⟩
    rw [hp.natCast_toNat hn]
    exact hn
  · rintro ⟨hp, n, hn, rfl⟩
    refine ⟨hp, ?_⟩
    rw [hn]
    rfl

/-! ## The circuits of programs -/

/-- What a block makes of a circuit that operations lead to is again one. -/
theorem reachable_of_step {o : Option Circuit} (ho : ∀ c, o = some c → Circuit.Reachable c)
    {b : Block} {d : Circuit} (h : b.step o = .ok (some d)) : Circuit.Reachable d := by
  cases b with
  | createCircuit n =>
    obtain ⟨e, he, hd⟩ := map_some_eq_ok_iff.mp h
    obtain ⟨-, rfl⟩ := freshCircuit_eq_ok_iff.mp he
    rw [Option.some.inj hd]
    have hfresh : segmentCircuit n.toNat [] = Circuit.withSize "scratch" n.toNat 0 := by
      simp [segmentCircuit, Circuit.withSize, measurements, instructionsOf]
    rw [hfresh]
    exact .create "scratch" n.toNat 0
  | gate g =>
    cases o with
    | none => simp [Block.step] at h
    | some c =>
      obtain ⟨e, he, hd⟩ := map_some_eq_ok_iff.mp h
      obtain ⟨hfit, rfl⟩ := Circuit.addGate_eq_ok_iff.mp he
      rw [Option.some.inj hd]
      exact (ho c rfl).attempt (o := .apply g.instruction)
        (Circuit.apply_of_fits hfit.instruction_fits)
  | measureAll =>
    cases o with
    | none => simp [Block.step] at h
    | some c =>
      obtain ⟨e, he, hd⟩ := map_some_eq_ok_iff.mp h
      rw [Option.some.inj hd]
      exact (ho c rfl).attempt (o := .measureAll) (Circuit.add_eq_ok_iff.mp he)
  | unrecognized opcode =>
    cases o with
    | none => simp [Block.step] at h
    | some c =>
      refine ho d ?_
      simpa [Block.step] using h

/-- **The circuit of a program is one that operations lead to.** -/
theorem reachable_of_compile {p : List Block} {c : Circuit} (h : compile p = .ok (some c)) :
    Circuit.Reachable c := by
  induction p using List.reverseRecOn generalizing c with
  | nil => cases h
  | append_singleton p b ih =>
    rw [compile_concat] at h
    obtain ⟨o, ho, hstep⟩ := bind_eq_ok_iff.mp h
    refine reachable_of_step (fun d hd => ih ?_) hstep
    rw [← hd]
    exact ho

theorem any_isMeasure_instructionsOf (n k : Nat) (segment : List Block) :
    (instructionsOf n k segment).any Instruction.isMeasure = true ↔ .measureAll ∈ segment := by
  induction segment generalizing k with
  | nil => simp [instructionsOf]
  | cons b rest ih =>
    cases b with
    | createCircuit m => simp [instructionsOf, ih]
    | gate g => simp [instructionsOf, ih, GateBlock.instruction, Instruction.gate,
        Instruction.isMeasure]
    | measureAll => simp [instructionsOf, measurementInto, Instruction.isMeasure]
    | unrecognized opcode => simp [instructionsOf, ih]

theorem hasMeasurements_segmentCircuit (n : Nat) (segment : List Block) :
    (segmentCircuit n segment).hasMeasurements = true ↔ .measureAll ∈ segment :=
  any_isMeasure_instructionsOf n 0 segment

/-! ## The meaning of a program -/

/-- **The meaning of a program.** It has no circuit exactly if no block creates one; it has one
exactly if a block creates one and every block fits where it stands; and then the circuit is on
the qubits of the last creation block, has the instructions of the blocks after it, and one
register of all qubits for each measurement. -/
theorem compile_meaning (p : List Block) :
    (compile p = .ok none ↔ ∀ n, .createCircuit n ∉ p) ∧
    ((∃ c, compile p = .ok (some c)) ↔ (∃ n, .createCircuit n ∈ p) ∧ WellPlaced p) ∧
    ∀ c, compile p = .ok (some c) →
      lastCreation? p = some (c.numQubits : Int) ∧
      c.instructions = instructionsOf c.numQubits 0 (lastSegment p) ∧
      c.registers = List.replicate (measurements (lastSegment p)) c.numQubits ∧
      c.numClbits = measurements (lastSegment p) * c.numQubits := by
  refine ⟨compile_eq_none_iff, ?_, ?_⟩
  · constructor
    · rintro ⟨c, hc⟩
      obtain ⟨hp, n, hn, -⟩ := compile_eq_some_iff.mp hc
      exact ⟨⟨n, lastCreation?_mem hn⟩, hp⟩
    · rintro ⟨⟨n, hn⟩, hp⟩
      cases hm : meaning p with
      | none => exact absurd hn (meaning_eq_none_iff.mp hm n)
      | some c => exact ⟨c, compile_eq_ok_iff.mpr ⟨hp, hm.symm⟩⟩
  · intro c hc
    obtain ⟨-, n, hn, rfl⟩ := compile_eq_some_iff.mp hc
    exact ⟨hn, rfl, rfl, rfl⟩

example :
    compile [.createCircuit 3, .measureAll, .createCircuit 2, .gate (.h 0), .measureAll,
        .gate (.cx 1 0), .unrecognized "say", .measureAll]
      = .ok (some
          { name := "scratch", numQubits := 2, numClbits := 4, registers := [2, 2],
            instructions := [.gate .h [0], ⟨.measure, [0, 1], [0, 1]⟩, .gate .cx [1, 0],
              ⟨.measure, [0, 1], [2, 3]⟩] }) := by
  rfl

end QuantumBlocks
