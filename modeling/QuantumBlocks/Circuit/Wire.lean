import QuantumBlocks.Circuit.Basic
import QuantumBlocks.Json.Record

/-!
# Circuits as JSON

How gates, instructions and circuits are written, and how gates and instructions are read.
-/

namespace QuantumBlocks

open Json

/-- A number as a JSON value. -/
def Json.Value.natural (n : Nat) : Value := .number (.integer n)

/-! ## Gates -/

/-- A gate is written as its symbol. -/
def Gate.toValue (g : Gate) : Value := .string g.symbol

/-- Reads a gate. -/
def Gate.decoder : Decoder Gate := .choice (Gate.all.map fun g => (g.symbol, .plain g))

/-! ## Instructions -/

/-- What an instruction does, as a case with its gate or a case of its own. -/
def InstructionKind.toValue : InstructionKind → Value
  | .gate g => .object [("Gate", g.toValue)]
  | .measure => .string "Measure"

/-- Reads what an instruction does. -/
def InstructionKind.decoder : Decoder InstructionKind :=
  .choice [("Gate", .carrying (Gate.decoder.map .gate)), ("Measure", .plain .measure)]

namespace Instruction

/-- An instruction with its operands. -/
def toValue (i : Instruction) : Value :=
  .object (membersOf
    [("kind", i.kind.toValue), ("qubits", .list (i.qubits.map .natural)),
      ("clbits", .list (i.clbits.map .natural))])

/-- The parts of an instruction that were read so far. -/
structure Parts where
  kind : Option InstructionKind := none
  qubits : Option (List Nat) := none
  clbits : Option (List Nat) := none

/-- The form of an instruction. -/
def form : Form Parts Instruction where
  name := "Instruction"
  fields :=
    [.slot "kind" InstructionKind.decoder Parts.kind fun k p => { p with kind := some k },
      .slot "qubits" (.list .unsigned32) Parts.qubits fun q p => { p with qubits := some q },
      .slot "clbits" (.list .unsigned32) Parts.clbits fun b p => { p with clbits := some b }]
  empty := {}
  complete p :=
    match p.kind, p.qubits, p.clbits with
    | none, _, _ => .error "kind"
    | _, none, _ => .error "qubits"
    | _, _, none => .error "clbits"
    | some kind, some qubits, some clbits => .ok ⟨kind, qubits, clbits⟩

/-- Reads an instruction. -/
def decoder : Decoder Instruction := .record form

end Instruction

/-! ## Circuits -/

/-- A circuit with its registers and instructions. -/
def Circuit.toValue (c : Circuit) : Value :=
  .object (membersOf
    [("name", .string c.name), ("num_qubits", .natural c.numQubits),
      ("num_clbits", .natural c.numClbits),
      ("clbit_registers", .list (c.registers.map .natural)),
      ("instructions", .list (c.instructions.map Instruction.toValue))])

end QuantumBlocks
