import QuantumBlocks.Program.Block
import QuantumBlocks.Circuit.Basic

/-!
# Limits

How large a program may be, and how often it may run. A program is checked against the limits as a
whole before anything is built. Main statement: a clamped number of shots is within the limits.
-/

namespace QuantumBlocks

/-! ## Errors -/

/-- Why a program is refused. -/
inductive ProgramError where
  | tooManyQubits (max : Nat)
  | tooManyGates (max : Nat)
  | invalidQubitCount (got : Int)
  | qubitOutOfRange (qubit : Int) (numQubits : Nat)
  | sameControlTarget
  | circuit (e : CircuitError)
  deriving DecidableEq, Repr

/-- An error in words. -/
def ProgramError.message : ProgramError → String
  | .tooManyQubits max => "Maximum " ++ toString max ++ " qubits allowed"
  | .tooManyGates max => "Maximum " ++ toString max ++ " gates allowed"
  | .invalidQubitCount got => "Circuit must have at least 1 qubit, got " ++ toString got
  | .qubitOutOfRange qubit numQubits =>
    "Qubit " ++ toString qubit ++ " out of range (0-" ++ toString (numQubits - 1) ++ ")"
  | .sameControlTarget => "Control and target qubits must be different"
  | .circuit e => e.message

/-! ## Limits -/

/-- The greatest number of qubits and of gates of a program, and of shots of a run. -/
structure Limits where
  maxQubits : Nat := 10
  maxGates : Nat := 100
  maxShots : Nat := 10000
  deriving DecidableEq, Repr, Inhabited

namespace Limits

/-- The number of shots that are run when `requested` are asked for. -/
def clampShots (limits : Limits) (requested : Nat) : Nat := min requested limits.maxShots

theorem clampShots_le (limits : Limits) (requested : Nat) :
    limits.clampShots requested ≤ limits.maxShots := Nat.min_le_right _ _

end Limits

/-! ## Validation -/

/-- Whether a block asks for more qubits than allowed. -/
def Block.asksTooMuch (limits : Limits) : Block → Bool
  | .createCircuit numQubits => (limits.maxQubits : Int) < numQubits
  | _ => false

/-- Checks a program against the limits: first the qubits of every circuit it creates, then the
number of its gates. -/
def validate (limits : Limits) (blocks : List Block) : Except ProgramError Unit :=
  if blocks.any (Block.asksTooMuch limits) then .error (.tooManyQubits limits.maxQubits)
  else if limits.maxGates < blocks.countP Block.countsAsGate then
    .error (.tooManyGates limits.maxGates)
  else .ok ()

end QuantumBlocks
