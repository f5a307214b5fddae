import QuantumBlocks.Backend.Basic
import QuantumBlocks.Simulator.Run

/-!
# The simulator as a backend

A job is run while it is submitted, so it has come to its end when its identifier is known. Each
accepted job takes one word from the generator of the simulator as the seed of a generator of its
own. A result is handed out once and forgotten with its job.

## Steps

Submitting draws a seed and stores the finished job; asking for a result takes the job out of the
store. These steps are functions of their own, since several callers may interleave them.
-/

namespace QuantumBlocks

open Text

/-! ## Finished jobs -/

/-- A job with the result that it had. -/
structure StoredJob where
  job : Job
  result : Option ExecutionResult
  deriving DecidableEq

/-- What the clock of the caller shows: the time of day, and how long a run takes. -/
structure Clock where
  now : Timestamp := ⟨0, 0⟩
  elapsedMs : Nat := 0

namespace Circuit

/-- What the message of a panic is, if it does not depend on the access. -/
def Panic.message? : Panic → Option String
  | .shiftOverflow => some "attempt to shift left with overflow"
  | .capacityOverflow => some "capacity overflow"
  | .outOfBounds => none

/-- What a runtime reports of its task with a number if the task panics. -/
def Panic.report (task : Nat) (p : Panic) : String :=
  "task " ++ toString task ++ " panicked" ++ match p.message? with
    | some message => " with message \"" ++ message ++ "\""
    | none => ""

/-- The error of a run that failed. A run is a task of its own, and a panic is told in the words in
which the runtime reports it. -/
def RunError.toBackendError (report : Panic → String) : RunError → BackendError
  | .noMeasurements => .invalidCircuit "circuit contains no measurements"
  | .panicked p => .backend ("simulation task failed: " ++ report p)

/-- The result of a circuit that was run, with the memory for its state. -/
def resultOf (c : Circuit) (shots : Nat) (seed : UInt64) (elapsedMs : Nat)
    (report : Panic → String := Panic.report 1) : Answer ExecutionResult :=
  match c.run shots seed with
  | .ok counts => .ok ⟨counts, shots, some elapsedMs⟩
  | .error e => .error (e.toBackendError report)

/-- The result of a task that runs a circuit: first it has to get the memory for the state. -/
def taskResult (c : Circuit) (shots : Nat) (seed : UInt64) (elapsedMs : Nat)
    (report : Panic → String := Panic.report 1) : Answer ExecutionResult :=
  match c.checkMemory with
  | .ok () => c.resultOf shots seed elapsedMs report
  | .error e => .error (e.toBackendError report)

end Circuit

namespace StoredJob

/-- Runs a circuit and records how it ended. -/
def ofRun (id : JobId) (backend : String) (clock : Clock) (c : Circuit) (shots : Nat)
    (seed : UInt64) (report : Circuit.Panic → String := Circuit.Panic.report 1) : StoredJob :=
  let job := (Job.create id shots clock.now (some backend)).transition .running clock.now
  match c.taskResult shots seed clock.elapsedMs report with
  | .ok result => ⟨job.transition .completed clock.now, some result⟩
  | .error e => ⟨job.transition (.failed e.message) clock.now, none⟩

/-- What a job hands out at its end. -/
def handOut (id : JobId) (stored : StoredJob) : Answer ExecutionResult :=
  match stored.job.status, stored.result with
  | .completed, some result => .ok result
  | .failed reason, _ => .error (.jobFailed reason)
  | status, _ =>
    .error (.backend ("job " ++ id ++ " has no result (status: " ++ status.describe ++ ")"))

end StoredJob

/-! ## Simulators -/

/-- The state of a simulator: what it can run, its generator, the jobs whose results were not
handed out yet, and how many identifiers it has given. -/
structure Simulator where
  capabilities : Capabilities
  generator : Generator
  jobs : List (JobId × StoredJob)
  issued : Nat

namespace Simulator

/-- The number of qubits that a simulator has if nothing else is asked for. -/
def defaultMaxQubits : Nat := 20

/-- A simulator without jobs. -/
def init (maxQubits : Nat) (seed : UInt64) : Simulator :=
  ⟨.simulator maxQubits, .ofSeed seed, [], 0⟩

/-! ## Steps -/

/-- Checks the size of a circuit and the number of shots. -/
def checkJob (capabilities : Capabilities) (c : Circuit) (shots : Nat) : Answer Unit :=
  if capabilities.numQubits < c.numQubits then
    .error (.circuitTooLarge ("Circuit has " ++ toString c.numQubits
      ++ " qubits but simulator only supports " ++ toString capabilities.numQubits))
  else if shots = 0 ∨ capabilities.maxShots < shots then
    .error (.invalidShots (toString shots ++ " is outside 1..="
      ++ toString capabilities.maxShots))
  else .ok ()

/-- Draws the seed of a job. -/
def drawSeed (s : Simulator) : UInt64 × Simulator :=
  let (seed, generator) := s.generator.next
  (seed, { s with generator })

/-- The job of an identifier. -/
def find? (s : Simulator) (id : JobId) : Option StoredJob :=
  (s.jobs.find? fun entry => entry.1 = id).map Prod.snd

/-- The simulator without a job. -/
def erase (s : Simulator) (id : JobId) : Simulator :=
  { s with jobs := s.jobs.filter fun entry => entry.1 ≠ id }

/-- Stores a job. -/
def store (s : Simulator) (id : JobId) (stored : StoredJob) : Simulator :=
  { s with jobs := (id, stored) :: (s.erase id).jobs }

/-- Takes the next identifier. -/
def issue (name : Nat → JobId) (s : Simulator) : JobId × Simulator :=
  (name s.issued, { s with issued := s.issued + 1 })

/-! ## Questions -/

/-- Runs a circuit and stores the job, if the circuit and the shots are admitted. -/
def submit (report : Circuit.Panic → String) (name : Nat → JobId) (clock : Clock) (c : Circuit)
    (shots : Nat) : StateM Simulator (Answer JobId) := fun s =>
  match checkJob s.capabilities c shots with
  | .error e => (.error e, s)
  | .ok () =>
    let (id, s) := s.issue name
    let (seed, s) := s.drawSeed
    (.ok id, s.store id (.ofRun id s.capabilities.name clock c shots seed report))

/-- The status of a job. -/
def status (id : JobId) : StateM Simulator (Answer JobStatus) := fun s =>
  match s.find? id with
  | some stored => (.ok stored.job.status, s)
  | none => (.error (.jobNotFound id), s)

/-- Hands out the result of a job and forgets the job. -/
def result (id : JobId) : StateM Simulator (Answer ExecutionResult) := fun s =>
  match s.find? id with
  | some stored => (stored.handOut id, s.erase id)
  | none => (.error (.jobNotFound id), s)

/-- What is reported of a job that is accepted after so many others. Each of them is a task of its
own, and tasks are numbered from one. -/
def reportOf (issued : Nat) : Circuit.Panic → String := Circuit.Panic.report (issued + 1)

/-- The simulator as a backend. Jobs are at their end when they are known, so waiting for one is
asking for its result. -/
def backend (capabilities : Capabilities) (name : Nat → JobId) (clock : Clock)
    (report : Nat → Circuit.Panic → String := reportOf) : Backend Simulator where
  name := capabilities.name
  capabilities := capabilities
  availability := return .ok .always
  submit c shots := fun s => submit (report s.issued) name clock c shots s
  status := status
  result := result
  pause _ := return ()
  wait := result

end Simulator

end QuantumBlocks
