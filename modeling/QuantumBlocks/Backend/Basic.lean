import QuantumBlocks.Backend.Error
import QuantumBlocks.Backend.Job
import QuantumBlocks.Counts.Basic

/-!
# Backends

A backend takes circuits, runs them, and hands out their results. It is given by what it does to a
state of its own when it is asked something, so any behaviour at all is a backend. Waiting for a
job is asking for its status again and again, with a pause after each answer that the job is not
done, and giving up after a fixed number of questions.
-/

namespace QuantumBlocks

open Json

/-! ## What backends tell -/

/-- What a backend can run. -/
structure Capabilities where
  name : String
  numQubits : Nat
  maxShots : Nat
  deriving DecidableEq, Repr

namespace Capabilities

/-- The capabilities of a simulator. -/
def simulator (numQubits : Nat) : Capabilities := ⟨"simulator", numQubits, 100000⟩

/-- Capabilities as an object. -/
def toValue (c : Capabilities) : Value :=
  .object (membersOf
    [("name", .string c.name), ("num_qubits", .natural c.numQubits),
      ("max_shots", .natural c.maxShots)])

/-- The parts of capabilities that were read so far. -/
structure Parts where
  name : Option String := none
  numQubits : Option Nat := none
  maxShots : Option Nat := none

/-- The form of capabilities. -/
def form : Form Parts Capabilities where
  name := "Capabilities"
  fields :=
    [.slot "name" .string Parts.name fun v p => { p with name := some v },
      .slot "num_qubits" .unsigned32 Parts.numQubits fun v p => { p with numQubits := some v },
      .slot "max_shots" .unsigned32 Parts.maxShots fun v p => { p with maxShots := some v }]
  empty := {}
  complete p := do
    let some name := p.name | throw "name"
    let some numQubits := p.numQubits | throw "num_qubits"
    let some maxShots := p.maxShots | throw "max_shots"
    return ⟨name, numQubits, maxShots⟩

/-- Reads capabilities. -/
def decoder : Decoder Capabilities := .record form

end Capabilities

/-- Whether a backend takes jobs, and what it has to say about that. -/
structure Availability where
  isAvailable : Bool
  statusMessage : Option String
  deriving DecidableEq, Repr

namespace Availability

/-- A backend that is always ready. -/
def always : Availability := ⟨true, none⟩

/-- A backend that is out of service. -/
def unavailable (reason : String) : Availability := ⟨false, some reason⟩

end Availability

/-- What came of a job. -/
structure ExecutionResult where
  counts : Counts
  shots : Nat
  executionTimeMs : Option Nat
  deriving DecidableEq

namespace ExecutionResult

/-- A result as an object; a time that was not taken is left out. -/
def toValue (r : ExecutionResult) : Value :=
  .object (membersOf
    ([("counts", r.counts.toValue), ("shots", .natural r.shots)]
      ++ (r.executionTimeMs.map fun ms => ("execution_time_ms", .natural ms)).toList))

/-- The parts of a result that were read so far. -/
structure Parts where
  counts : Option Counts := none
  shots : Option Nat := none
  executionTimeMs : Option (Option Nat) := none

/-- The form of a result. -/
def form : Form Parts ExecutionResult where
  name := "ExecutionResult"
  fields :=
    [.slot "counts" Counts.decoder Parts.counts fun v p => { p with counts := some v },
      .slot "shots" .unsigned32 Parts.shots fun v p => { p with shots := some v },
      .slot "execution_time_ms" (.optional .unsigned64) Parts.executionTimeMs fun v p =>
        { p with executionTimeMs := some v }]
  empty := {}
  complete p := do
    let some counts := p.counts | throw "counts"
    let some shots := p.shots | throw "shots"
    return ⟨counts, shots, p.executionTimeMs.join⟩

/-- Reads a result. -/
def decoder : Decoder ExecutionResult := .record form

end ExecutionResult

/-! ## Waiting -/

/-- An answer of a backend, or why it gives none. -/
abbrev Answer (α : Type) := Except BackendError α

/-- How long to pause between two questions, in milliseconds. -/
def pollInterval : Nat := 100

/-- How often to ask before giving up. -/
def maxPolls : Nat := 3000

/-- Asks for the status of a job up to `polls` times, then for its result. -/
def pollForResult {σ : Type} (status : JobId → StateM σ (Answer JobStatus))
    (result : JobId → StateM σ (Answer ExecutionResult)) (pause : Nat → StateM σ Unit)
    (job : JobId) : (polls : Nat) → StateM σ (Answer ExecutionResult)
  | 0 => return .error (.timeout job)
  | polls + 1 => do
    match ← status job with
    | .error e => return .error e
    | .ok .completed => result job
    | .ok (.failed reason) => return .error (.jobFailed reason)
    | .ok .queued | .ok .running =>
      pause pollInterval
      pollForResult status result pause job polls

/-! ## Backends -/

/-- A backend with state `σ`. -/
structure Backend (σ : Type) where
  name : String
  capabilities : Capabilities
  availability : StateM σ (Answer Availability)
  submit : Circuit → Nat → StateM σ (Answer JobId)
  status : JobId → StateM σ (Answer JobStatus)
  result : JobId → StateM σ (Answer ExecutionResult)
  pause : Nat → StateM σ Unit
  wait : JobId → StateM σ (Answer ExecutionResult) := fun job =>
    pollForResult status result pause job maxPolls

namespace Backend

variable {σ : Type} (b : Backend σ)

/-- Whether a backend takes jobs; one that cannot tell does not. -/
def isAvailable : StateM σ Bool := do
  match ← b.availability with
  | .ok a => return a.isAvailable
  | .error _ => return false

end Backend

end QuantumBlocks
