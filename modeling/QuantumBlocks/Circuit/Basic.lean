import QuantumBlocks.Circuit.Instruction

/-!
# Circuits

A circuit has a fixed number of qubits, classical bits in registers, and instructions in the order
in which they apply. An instruction is checked against the circuit when it is applied, so a
circuit never names a qubit or a bit that it does not have. Main statement: an instruction that is
accepted is added at the end, and nothing else changes.
-/

namespace QuantumBlocks

/-- A circuit. -/
structure Circuit where
  name : String
  numQubits : Nat
  numClbits : Nat
  registers : List Nat
  instructions : List Instruction
  deriving DecidableEq, Repr

namespace Circuit

/-! ## Construction -/

/-- A circuit without instructions, whose classical bits form one register if there are any. -/
def withSize (name : String) (numQubits numClbits : Nat) : Circuit where
  name := name
  numQubits := numQubits
  numClbits := numClbits
  registers := if 0 < numClbits then [numClbits] else []
  instructions := []

/-- The circuit with one more register; its first bit is the number of bits so far. The bits are
numbered without end, also beyond what a word can count. -/
def addRegister (c : Circuit) (size : Nat) : Circuit :=
  { c with numClbits := c.numClbits + size, registers := c.registers ++ [size] }

/-! ## Checks -/

/-- The number of elements of a list as a word of 32 bits holds it. -/
def wordCount (qubits : List Nat) : Nat := qubits.length % Nat.pow 2 32

/-- The first element that occurred before. -/
def firstRepeated? (seen : List Nat) : List Nat → Option Nat
  | [] => none
  | q :: rest => if q ∈ seen then some q else firstRepeated? (q :: seen) rest

/-- A gate must have as many qubits as it acts on. -/
def checkArity (i : Instruction) : Except CircuitError Unit :=
  match i.kind with
  | .gate g =>
    if wordCount i.qubits = g.arity then .ok ()
    else .error (.qubitCountMismatch g.name g.arity (wordCount i.qubits))
  | .measure => .ok ()

/-- All qubits must belong to the circuit. -/
def checkQubits (c : Circuit) (i : Instruction) : Except CircuitError Unit :=
  match i.qubits.find? fun q => c.numQubits ≤ q with
  | some q => .error (.qubitNotFound q (i.gate?.map Gate.name))
  | none => .ok ()

/-- All classical bits must belong to the circuit. -/
def checkClbits (c : Circuit) (i : Instruction) : Except CircuitError Unit :=
  match i.clbits.find? fun b => c.numClbits ≤ b with
  | some b => .error (.clbitNotFound b (i.gate?.map Gate.name))
  | none => .ok ()

/-- No qubit may stand twice. -/
def checkDistinct (i : Instruction) : Except CircuitError Unit :=
  match firstRepeated? [] i.qubits with
  | some q => .error (.duplicateQubit q (i.gate?.map Gate.name))
  | none => .ok ()

/-- All checks of an instruction, the first failure counting. -/
def check (c : Circuit) (i : Instruction) : Except CircuitError Unit := do
  checkArity i
  c.checkQubits i
  c.checkClbits i
  checkDistinct i

/-! ## Applying instructions -/

/-- The circuit with an instruction added at its end. -/
def push (c : Circuit) (i : Instruction) : Circuit :=
  { c with instructions := c.instructions ++ [i] }

/-- Adds an instruction at the end if it passes all checks. -/
def apply (c : Circuit) (i : Instruction) : Except CircuitError Circuit :=
  match c.check i with
  | .ok () => .ok (c.push i)
  | .error e => .error e

/-- An accepted instruction passed all checks and is added at the end. -/
theorem apply_eq_ok_iff {c d : Circuit} {i : Instruction} :
    c.apply i = .ok d ↔ c.check i = .ok () ∧ d = c.push i := by
  unfold apply
  split
  · simp_all [eq_comm]
  · simp_all

/-- Adds a gate. -/
def applyGate (c : Circuit) (g : Gate) (qubits : List Nat) : Except CircuitError Circuit :=
  c.apply (.gate g qubits)

/-- Adds the measurement of one qubit. -/
def measure (c : Circuit) (qubit clbit : Nat) : Except CircuitError Circuit :=
  c.apply (.measure qubit clbit)

/-- Adds the measurement of several qubits. -/
def measureMany (c : Circuit) (qubits clbits : List Nat) : Except CircuitError Circuit := do
  c.apply (← Instruction.measureMany qubits clbits)

/-- Adds a register with one bit for each qubit and the measurement of all qubits into it. -/
def measureAll (c : Circuit) : Except CircuitError Circuit :=
  (c.addRegister c.numQubits).measureMany (List.range c.numQubits)
    (List.range' c.numClbits c.numQubits)

/-! ## Questions -/

/-- The number of instructions. -/
def numOps (c : Circuit) : Nat := c.instructions.length

/-- The number of gates. -/
def numGates (c : Circuit) : Nat := c.instructions.countP fun i => !i.isMeasure

/-- Whether the circuit measures anything. -/
def hasMeasurements (c : Circuit) : Bool := c.instructions.any Instruction.isMeasure

/-- The gates before the first measurement. -/
def leadingGates (c : Circuit) : List Instruction :=
  c.instructions.takeWhile fun i => !i.isMeasure

/-- The instructions from the first measurement on. -/
def measuredTail (c : Circuit) : List Instruction :=
  c.instructions.dropWhile fun i => !i.isMeasure

/-- Whether no gate comes after a measurement. -/
def measurementsAreTerminal (c : Circuit) : Bool := c.measuredTail.all Instruction.isMeasure

/-- The instructions are those before the first measurement and those from it on. -/
theorem leadingGates_append_measuredTail (c : Circuit) :
    c.leadingGates ++ c.measuredTail = c.instructions :=
  List.takeWhile_append_dropWhile

end Circuit

end QuantumBlocks
