/-!
# Gates

The gates that a circuit can hold, with their names and the number of qubits they act on.
-/

namespace QuantumBlocks

/-- A gate. -/
inductive Gate where
  | h
  | x
  | y
  | z
  | cx
  deriving DecidableEq, Repr

namespace Gate

/-- All gates. -/
def all : List Gate := [.h, .x, .y, .z, .cx]

/-- The symbol of a gate. -/
def symbol : Gate → String
  | .h => "H"
  | .x => "X"
  | .y => "Y"
  | .z => "Z"
  | .cx => "CX"

/-- The name of a gate in messages. -/
def name : Gate → String
  | .h => "h"
  | .x => "x"
  | .y => "y"
  | .z => "z"
  | .cx => "cx"

/-- The number of qubits that a gate acts on. -/
def arity : Gate → Nat
  | .h | .x | .y | .z => 1
  | .cx => 2

end Gate

end QuantumBlocks
