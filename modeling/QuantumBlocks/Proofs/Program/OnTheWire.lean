import QuantumBlocks.Proofs.Program.WithinLimits

/-!
# The limits of programs on the wire

A program is held against the limits once its blocks are typed, and typing keeps of an unknown
opcode only that it is unknown. Nothing that the limits ask for is lost on the way: the verdict
can be read off the opcodes as they came, and the order of the blocks does not matter.

* `countsAsGate_ofRaw`, `asksTooMuch_ofRaw` — what the limits ask of a block, in terms of its
  opcode
* `validate_perm` — the verdict does not depend on the order of the blocks
* `validate_map_ofRaw` — which verdict a program on the wire gets
-/

namespace QuantumBlocks

namespace RawBlock

/-- The opcode of a block begins like that of a gate. -/
def NamesGate (b : RawBlock) : Prop := ∃ rest, b.opcode = "quantum_gate" ++ rest

/-- A block creates a circuit of more qubits than some limits allow. -/
def AsksTooMuch (limits : Limits) (b : RawBlock) : Prop :=
  b.opcode = "quantum_createCircuit" ∧ (limits.maxQubits : Int) < b.integerArg "NUM_QUBITS" 1

end RawBlock

/-! ## Opcodes -/

/-- The opcodes of the gates that are known. -/
def gateOpcodes : List String :=
  ["quantum_gateH", "quantum_gateX", "quantum_gateY", "quantum_gateZ", "quantum_gateCX"]

/-- What becomes of a block: a creation, a gate, a measurement, or nothing that is known. -/
theorem ofRaw_cases (b : RawBlock) :
    (b.opcode = "quantum_createCircuit" ∧
        Block.ofRaw b = .createCircuit (b.integerArg "NUM_QUBITS" 1)) ∨
      (b.opcode ∈ gateOpcodes ∧ ∃ g, Block.ofRaw b = .gate g) ∨
      (b.opcode = "quantum_measureAll" ∧ Block.ofRaw b = .measureAll) ∨
      (b.opcode ≠ "quantum_createCircuit" ∧ Block.ofRaw b = .unrecognized b.opcode) := by
  have hgate {opcode : String} {g : GateBlock} (hopcode : b.opcode = opcode)
      (hmem : opcode ∈ gateOpcodes) (hg : Block.ofRaw b = .gate g) :
      b.opcode ∈ gateOpcodes ∧ ∃ g, Block.ofRaw b = .gate g :=
    ⟨hopcode ▸ hmem, g, hg⟩
  rw [Block.ofRaw] at hgate ⊢
  split at hgate
  · next h => exact Or.inl ⟨h, rfl⟩
  · next h => exact Or.inr (Or.inl (hgate h (by decide) rfl))
  · next h => exact Or.inr (Or.inl (hgate h (by decide) rfl))
  · next h => exact Or.inr (Or.inl (hgate h (by decide) rfl))
  · next h => exact Or.inr (Or.inl (hgate h (by decide) rfl))
  · next h => exact Or.inr (Or.inl (hgate h (by decide) rfl))
  · next h => exact Or.inr (Or.inr (Or.inl ⟨h, rfl⟩))
  · next h _ _ _ _ _ _ => exact Or.inr (Or.inr (Or.inr ⟨h, rfl⟩))

theorem isPrefixOf_gateOpcode_iff {s : String} :
    Block.gateOpcode.toList.isPrefixOf s.toList = true ↔ ∃ rest, s = "quantum_gate" ++ rest := by
  rw [List.isPrefixOf_iff_prefix]
  constructor
  · rintro ⟨rest, h⟩
    have hs : s.toList = ("quantum_gate" ++ String.ofList rest).toList := by
      simp [← h, Block.gateOpcode]
    exact ⟨String.ofList rest, String.toList_injective hs⟩
  · rintro ⟨rest, rfl⟩
    rw [String.toList_append]
    exact List.prefix_append _ _

instance : DecidablePred RawBlock.NamesGate := fun _ =>
  decidable_of_iff _ isPrefixOf_gateOpcode_iff

/-- **The blocks that count as gates are those whose opcode begins like one**, known or not. -/
theorem countsAsGate_ofRaw (b : RawBlock) :
    (Block.ofRaw b).countsAsGate = true ↔ b.NamesGate := by
  rw [RawBlock.NamesGate, ← isPrefixOf_gateOpcode_iff]
  rcases ofRaw_cases b with ⟨h, hb⟩ | ⟨h, g, hb⟩ | ⟨h, hb⟩ | ⟨-, hb⟩
  · rw [hb, h]
    exact iff_of_false Bool.false_ne_true (by decide)
  · rw [hb]
    have hall : ∀ opcode ∈ gateOpcodes,
        Block.gateOpcode.toList.isPrefixOf opcode.toList = true := by decide
    exact iff_of_true rfl (hall _ h)
  · rw [hb, h]
    exact iff_of_false Bool.false_ne_true (by decide)
  · rw [hb]
    exact Iff.rfl

/-- **The blocks that ask for too many qubits are creation blocks**, and they ask for what their
argument says. -/
theorem asksTooMuch_ofRaw (limits : Limits) (b : RawBlock) :
    (Block.ofRaw b).asksTooMuch limits = true ↔ b.AsksTooMuch limits := by
  rw [RawBlock.AsksTooMuch]
  rcases ofRaw_cases b with ⟨h, hb⟩ | ⟨h, g, hb⟩ | ⟨h, hb⟩ | ⟨h, hb⟩
  · simp [hb, h, Block.asksTooMuch]
  · have hne : b.opcode ≠ "quantum_createCircuit" := by
      rintro heq
      rw [heq] at h
      exact absurd h (by decide)
    simp [hb, hne, Block.asksTooMuch]
  · simp [hb, h, Block.asksTooMuch]
  · simp [hb, h, Block.asksTooMuch]

/-! ## Programs -/

theorem any_asksTooMuch_ofRaw (limits : Limits) (blocks : List RawBlock) :
    (blocks.map Block.ofRaw).any (Block.asksTooMuch limits) = true ↔
      ∃ b ∈ blocks, b.AsksTooMuch limits := by
  simp only [List.any_map, List.any_eq_true, Function.comp_apply, asksTooMuch_ofRaw]

theorem countP_countsAsGate_ofRaw (blocks : List RawBlock) :
    (blocks.map Block.ofRaw).countP Block.countsAsGate
      = blocks.countP fun b => decide b.NamesGate := by
  rw [List.countP_map]
  refine List.countP_congr fun b _ => ?_
  rw [Function.comp_apply, countsAsGate_ofRaw, decide_eq_true_iff]

/-- **The verdict does not depend on the order of the blocks.** -/
theorem validate_perm (limits : Limits) {p q : List Block} (h : p.Perm q) :
    validate limits p = validate limits q := by
  rw [validate, validate, h.countP_eq, h.any_eq]

/-- **Which verdict a program on the wire gets.** It has too many qubits exactly if some creation
block asks for too many; otherwise it has too many gates exactly if too many opcodes begin like
that of a gate, wherever they stand; otherwise it is let pass. In another order the same blocks
get the same verdict. -/
theorem validate_map_ofRaw (limits : Limits) (blocks : List RawBlock) :
    let verdict := validate limits (blocks.map Block.ofRaw)
    let asks := ∃ b ∈ blocks, b.AsksTooMuch limits
    let gates := blocks.countP fun b => decide b.NamesGate
    (verdict = .error (.tooManyQubits limits.maxQubits) ↔ asks) ∧
    (verdict = .error (.tooManyGates limits.maxGates) ↔ ¬asks ∧ limits.maxGates < gates) ∧
    (verdict = .ok () ↔ ¬asks ∧ gates ≤ limits.maxGates) ∧
    ∀ other : List RawBlock, other.Perm blocks →
      validate limits (other.map Block.ofRaw) = verdict := by
  intro verdict asks gates
  have hverdicts := validate_verdicts limits (blocks.map Block.ofRaw)
  rw [any_asksTooMuch_ofRaw, countP_countsAsGate_ofRaw] at hverdicts
  obtain ⟨hqubits, hgates, hpassed⟩ := hverdicts
  exact ⟨hqubits, hgates, hpassed, fun other hother => validate_perm limits (hother.map _)⟩

example :
    validate { maxGates := 1 }
        ([⟨"quantum_gateT", []⟩, ⟨"looks_say", []⟩, ⟨"quantum_gateH", []⟩].map Block.ofRaw)
      = .error (.tooManyGates 1) := by
  rfl

end QuantumBlocks
