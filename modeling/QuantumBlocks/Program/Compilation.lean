import QuantumBlocks.Program.Limits

/-!
# From programs to circuits

A program is worked off block by block. A creation block starts over with a new circuit, a gate or
a measurement adds to the circuit at hand, and before the first creation block there is none, so
such blocks are dropped.
-/

namespace QuantumBlocks

open Number

/-! ## Single blocks -/

/-- The circuit of a creation block, which needs one qubit or more and at most 32 bits of them. -/
def freshCircuit (numQubits : Int) : Except ProgramError Circuit :=
  if 1 ≤ numQubits ∧ numQubits ≤ maxUnsigned32 then
    .ok (.withSize "scratch" numQubits.toNat 0)
  else .error (.invalidQubitCount numQubits)

namespace Circuit

/-- The qubit of a number, if the circuit has it. -/
def qubit (c : Circuit) (n : Int) : Except ProgramError Nat :=
  if 0 ≤ n ∧ n < c.numQubits then .ok n.toNat else .error (.qubitOutOfRange n c.numQubits)

/-- Adds an instruction that the program's own checks have let pass. -/
def add (r : Except CircuitError Circuit) : Except ProgramError Circuit := r.mapError .circuit

/-- Adds the gate of a block. -/
def addGate (c : Circuit) : GateBlock → Except ProgramError Circuit
  | .h qubit => do add (c.applyGate .h [← c.qubit qubit])
  | .x qubit => do add (c.applyGate .x [← c.qubit qubit])
  | .y qubit => do add (c.applyGate .y [← c.qubit qubit])
  | .z qubit => do add (c.applyGate .z [← c.qubit qubit])
  | .cx control target => do
    let control ← c.qubit control
    let target ← c.qubit target
    if control = target then throw .sameControlTarget
    else add (c.applyGate .cx [control, target])

end Circuit

/-! ## Programs -/

/-- What a block makes of the circuit at hand. -/
def Block.step (current : Option Circuit) (block : Block) :
    Except ProgramError (Option Circuit) :=
  match block, current with
  | .createCircuit numQubits, _ => (freshCircuit numQubits).map some
  | _, none => .ok none
  | .gate g, some c => (c.addGate g).map some
  | .measureAll, some c => (Circuit.add c.measureAll).map some
  | .unrecognized _, some c => .ok (some c)

/-- The circuit of a program, if it creates one. -/
def compile (blocks : List Block) : Except ProgramError (Option Circuit) :=
  blocks.foldlM Block.step none

end QuantumBlocks
