import QuantumBlocks.Circuit.Gate

/-!
# Instructions

One step of a circuit: a gate on some qubits, or a measurement that reads qubits into classical
bits, the first qubit into the first bit and so on.
-/

namespace QuantumBlocks

/-! ## Errors -/

/-- Why a circuit refuses an instruction; `gate` names the gate that was to be applied. -/
inductive CircuitError where
  | qubitNotFound (qubit : Nat) (gate : Option String)
  | clbitNotFound (clbit : Nat) (gate : Option String)
  | qubitCountMismatch (gate : String) (expected got : Nat)
  | measureArity (qubits clbits : Nat)
  | duplicateQubit (qubit : Nat) (gate : Option String)
  deriving DecidableEq, Repr

/-- A qubit in messages. -/
def qubitLabel (qubit : Nat) : String := "q" ++ toString qubit

/-- A classical bit in messages. -/
def clbitLabel (clbit : Nat) : String := "c" ++ toString clbit

namespace CircuitError

/-- The remark that a gate was to be applied. -/
def gateRemark : Option String → String
  | some name => " (gate: " ++ name ++ ")"
  | none => ""

/-- An error in words. -/
def message : CircuitError → String
  | .qubitNotFound qubit gate =>
    "Qubit " ++ qubitLabel qubit ++ " not found in circuit" ++ gateRemark gate
  | .clbitNotFound clbit gate =>
    "Classical bit " ++ clbitLabel clbit ++ " not found in circuit" ++ gateRemark gate
  | .qubitCountMismatch gate expected got =>
    "Gate '" ++ gate ++ "' requires " ++ toString expected ++ " qubits, got " ++ toString got
  | .measureArity qubits clbits =>
    "Measurement maps " ++ toString qubits ++ " qubits onto " ++ toString clbits
      ++ " classical bits"
  | .duplicateQubit qubit gate =>
    "Duplicate qubit " ++ qubitLabel qubit ++ " in operation" ++ gateRemark gate

end CircuitError

/-! ## Instructions -/

/-- What an instruction does. -/
inductive InstructionKind where
  | gate (g : Gate)
  | measure
  deriving DecidableEq, Repr

/-- An instruction with the qubits it acts on and the classical bits it writes. -/
structure Instruction where
  kind : InstructionKind
  qubits : List Nat
  clbits : List Nat
  deriving DecidableEq, Repr

namespace Instruction

/-- A gate on qubits. -/
def gate (g : Gate) (qubits : List Nat) : Instruction := ⟨.gate g, qubits, []⟩

/-- The measurement of one qubit. -/
def measure (qubit clbit : Nat) : Instruction := ⟨.measure, [qubit], [clbit]⟩

/-- The measurement of several qubits, as many as there are bits to write. -/
def measureMany (qubits clbits : List Nat) : Except CircuitError Instruction :=
  if qubits.length = clbits.length then .ok ⟨.measure, qubits, clbits⟩
  else .error (.measureArity qubits.length clbits.length)

/-- Whether the instruction is a measurement. -/
def isMeasure (i : Instruction) : Bool :=
  match i.kind with
  | .measure => true
  | .gate _ => false

/-- The gate of the instruction. -/
def gate? (i : Instruction) : Option Gate :=
  match i.kind with
  | .gate g => some g
  | .measure => none

/-- The name of the instruction. -/
def name (i : Instruction) : String :=
  match i.kind with
  | .gate g => g.name
  | .measure => "measure"

/-- The qubits with the bits they are read into, in order. -/
def targets (i : Instruction) : List (Nat × Nat) := i.qubits.zip i.clbits

end Instruction

end QuantumBlocks
