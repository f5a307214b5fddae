import QuantumBlocks.Circuit.Wire
import QuantumBlocks.Text.Timestamp

/-!
# Jobs

A job waits, runs, and is then completed or failed for good. Its record keeps when it was created
and when it came to its end. Main statement: a job at its end does not change any more.
-/

namespace QuantumBlocks

open Json Text

/-! ## Identifiers -/

/-- The identifier of a job. -/
abbrev JobId := String

/-! ## Status -/

/-- Where a job stands. -/
inductive JobStatus where
  | queued
  | running
  | completed
  | failed (reason : String)
  deriving DecidableEq, Repr

namespace JobStatus

/-- Whether a job has come to its end. -/
def isTerminal : JobStatus → Bool
  | .completed | .failed _ => true
  | .queued | .running => false

/-- Whether a job has come to a good end. -/
def isSuccess : JobStatus → Bool
  | .completed => true
  | _ => false

/-- A status in words. -/
def describe : JobStatus → String
  | .queued => "Queued"
  | .running => "Running"
  | .completed => "Completed"
  | .failed reason => "Failed: " ++ reason

/-- A status as a case, which carries the reason of a failure. -/
def toValue : JobStatus → Value
  | .queued => .string "Queued"
  | .running => .string "Running"
  | .completed => .string "Completed"
  | .failed reason => .object [("Failed", .string reason)]

/-- Reads a status. -/
def decoder : Decoder JobStatus :=
  .choice
    [("Queued", .plain .queued), ("Running", .plain .running), ("Completed", .plain .completed),
      ("Failed", .carrying (Decoder.string.map .failed))]

end JobStatus

/-! ## Jobs -/

/-- The record of a job. -/
structure Job where
  id : JobId
  status : JobStatus
  shots : Nat
  createdAt : Timestamp
  finishedAt : Option Timestamp
  backend : Option String
  deriving DecidableEq, Repr

namespace Job

/-- A new job waits. -/
def create (id : JobId) (shots : Nat) (now : Timestamp) (backend : Option String := none) : Job :=
  ⟨id, .queued, shots, now, none, backend⟩

/-- Moves a job to a status, unless it has come to its end; coming there is recorded. -/
def transition (job : Job) (status : JobStatus) (now : Timestamp) : Job :=
  if job.status.isTerminal then job
  else { job with status, finishedAt := if status.isTerminal then some now else job.finishedAt }

/-- A job at its end stays as it is. -/
theorem transition_of_isTerminal {job : Job} (h : job.status.isTerminal = true)
    (status : JobStatus) (now : Timestamp) : job.transition status now = job := by
  simp [transition, h]

/-! ## JSON -/

/-- The record of a job; what is not known is left out. -/
def toValue (job : Job) : Value :=
  .object (membersOf
    ([("id", .string job.id), ("status", job.status.toValue), ("shots", .natural job.shots),
      ("created_at", .string job.createdAt.render)]
      ++ (job.finishedAt.map fun t => ("finished_at", .string t.render)).toList
      ++ (job.backend.map fun b => ("backend", .string b)).toList))

/-- Reads a point in time. -/
def timestampDecoder : Decoder Timestamp :=
  .parsed "an RFC 3339 formatted date and time string" fun s =>
    (Timestamp.read s).mapError Timestamp.Flaw.message

/-- The parts of a job that were read so far. -/
structure Parts where
  id : Option String := none
  status : Option JobStatus := none
  shots : Option Nat := none
  createdAt : Option Timestamp := none
  finishedAt : Option (Option Timestamp) := none
  backend : Option (Option String) := none

/-- The form of a job. -/
def form : Form Parts Job where
  name := "Job"
  fields :=
    [.slot "id" .string Parts.id fun v p => { p with id := some v },
      .slot "status" JobStatus.decoder Parts.status fun v p => { p with status := some v },
      .slot "shots" .unsigned32 Parts.shots fun v p => { p with shots := some v },
      .slot "created_at" timestampDecoder Parts.createdAt fun v p => { p with createdAt := some v },
      .slot "finished_at" (.optional timestampDecoder) Parts.finishedAt fun v p =>
        { p with finishedAt := some v },
      .slot "backend" (.optional .string) Parts.backend fun v p => { p with backend := some v }]
  empty := {}
  complete p := do
    let some id := p.id | throw "id"
    let some status := p.status | throw "status"
    let some shots := p.shots | throw "shots"
    let some createdAt := p.createdAt | throw "created_at"
    return ⟨id, status, shots, createdAt, p.finishedAt.join, p.backend.join⟩

/-- Reads the record of a job. -/
def decoder : Decoder Job := .record form

end Job

end QuantumBlocks
