import QuantumBlocks.Backend.Basic
import QuantumBlocks.Counts.Summary
import QuantumBlocks.Program.Compilation

/-!
# Running programs

A program is validated, compiled and run on a backend, and whatever happens comes back as an
outcome: counts with their summary, or the text of an error. The backend runs no more shots than
the limits allow, while the shares in the summary refer to the shots that were asked for.
-/

namespace QuantumBlocks

open Json

/-! ## Errors -/

/-- Why a program did not run. -/
inductive ExecutionError where
  | program (e : ProgramError)
  | backend (e : BackendError)
  deriving DecidableEq, Repr

/-- An error in words; those of the program stand for themselves. -/
def ExecutionError.message : ExecutionError → String
  | .program e => e.message
  | .backend e => "Execution error: " ++ e.message

/-- The error of a program that creates no circuit. -/
def noCircuitMessage : String :=
  "No quantum circuit created. Use 'quantum_createCircuit' block first."

/-! ## Outcomes -/

/-- How long an execution took: nothing at all where it never started, and otherwise what the
clock of the caller says. -/
inductive Elapsed where
  | zero
  | measured
  deriving DecidableEq, Repr

/-- What came of an execution. -/
structure ExecutionOutcome where
  success : Bool
  counts : Option Counts
  resultText : Option String
  error : Option String
  executionTime : Elapsed
  deriving DecidableEq

namespace ExecutionOutcome

/-- An execution that gave counts. -/
def succeeded (counts : Counts) (resultText : String) : ExecutionOutcome :=
  ⟨true, some counts, some resultText, none, .measured⟩

/-- An execution that gave an error. -/
def failed (error : String) (executionTime : Elapsed) : ExecutionOutcome :=
  ⟨false, none, none, some error, executionTime⟩

/-- An outcome as an object, with the time that was taken. -/
def toValue (seconds : Elapsed → Value) (o : ExecutionOutcome) : Value :=
  .object (membersOf
    [("success", .bool o.success), ("counts", (o.counts.map Counts.toValue).getD .null),
      ("result_text", (o.resultText.map Value.string).getD .null),
      ("error", (o.error.map Value.string).getD .null),
      ("execution_time", seconds o.executionTime)])

end ExecutionOutcome

/-! ## Executors -/

/-- Runs programs on a backend within limits. -/
structure Executor (σ : Type) where
  backend : Backend σ
  limits : Limits := {}

namespace Executor

variable {σ : Type} (x : Executor σ)

/-- Submits a circuit and waits for its result. -/
def runCircuit (circuit : Circuit) (shots : Nat) : StateM σ (Answer ExecutionResult) := do
  match ← x.backend.submit circuit shots with
  | .error e => return .error e
  | .ok job => x.backend.wait job

/-- The circuit of a program that is within the limits. -/
def prepare (blocks : List Block) : Except ProgramError (Option Circuit) := do
  validate x.limits blocks
  compile blocks

/-- Runs a program; no counts come of one that creates no circuit. -/
def run (blocks : List Block) (shots : Nat) :
    StateM σ (Except ExecutionError (Option Counts)) := do
  match x.prepare blocks with
  | .error e => return .error (.program e)
  | .ok none => return .ok none
  | .ok (some circuit) =>
    match ← x.runCircuit circuit (x.limits.clampShots shots) with
    | .error e => return .error (.backend e)
    | .ok result => return .ok (some result.counts)

/-- The outcome of a program on a backend that takes jobs. -/
def outcome (shots : Nat) : Except ExecutionError (Option Counts) → ExecutionOutcome
  | .ok (some counts) => .succeeded counts (counts.summary shots)
  | .ok none => .failed noCircuitMessage .zero
  | .error e => .failed e.message .measured

/-- Runs a program if the backend takes jobs. -/
def execute (blocks : List Block) (shots : Nat) : StateM σ ExecutionOutcome := do
  if ← x.backend.isAvailable then
    return outcome shots (← x.run blocks shots)
  else
    return .failed (x.backend.name ++ " is not installed") .zero

end Executor

end QuantumBlocks
