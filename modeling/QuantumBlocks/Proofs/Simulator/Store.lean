import QuantumBlocks.Simulator.Store

/-!
# Stored jobs

A job is run and stored when it is submitted, and whoever waits for it gets what came of the run.

* `find?_store`, `find?_store_of_ne` — a job that was stored is found, and no other is lost
* `find?_erase`, `find?_erase_of_ne` — a job that was erased is not found, and no other is lost
* `handOut_ofRun` — it hands out the result of its run
-/

namespace QuantumBlocks

namespace StoredJob

/-- **What a stored job hands out is the result of its run**, its failure named as one of the
job. -/
theorem handOut_ofRun (id : JobId) (backend : String) (clock : Clock) (c : Circuit) (shots : Nat)
    (seed : UInt64) (report : Circuit.Panic → String) :
    handOut id (ofRun id backend clock c shots seed report) =
      match c.taskResult shots seed clock.elapsedMs report with
      | .ok result => .ok result
      | .error e => .error (.jobFailed e.message) := by
  unfold ofRun
  cases c.taskResult shots seed clock.elapsedMs report with
  | ok result => rfl
  | error e => rfl

end StoredJob

namespace Simulator

theorem find?_store (s : Simulator) (id : JobId) (stored : StoredJob) :
    (s.store id stored).find? id = some stored := by
  simp [store, find?]

theorem find?_erase (s : Simulator) (id : JobId) : (s.erase id).find? id = none := by
  simp [erase, find?]

theorem find?_erase_of_ne {id other : JobId} (h : other ≠ id) (s : Simulator) :
    (s.erase id).find? other = s.find? other := by
  unfold find? erase
  rw [List.find?_filter]
  congr 2
  funext entry
  by_cases heq : entry.1 = other
  · simp [heq, h]
  · simp [heq]

theorem find?_store_of_ne {id other : JobId} (h : other ≠ id) (s : Simulator)
    (stored : StoredJob) : (s.store id stored).find? other = s.find? other := by
  rw [← find?_erase_of_ne h s]
  unfold find? store
  rw [List.find?_cons_of_neg]
  simpa using Ne.symm h

/-- The circuits and shots that are admitted. -/
theorem checkJob_eq_ok_iff {capabilities : Capabilities} {c : Circuit} {shots : Nat} :
    checkJob capabilities c shots = .ok () ↔
      c.numQubits ≤ capabilities.numQubits ∧ 1 ≤ shots ∧ shots ≤ capabilities.maxShots := by
  unfold checkJob
  split
  · next h =>
    simp only [reduceCtorEq, false_iff]
    omega
  · split
    · next h =>
      simp only [reduceCtorEq, false_iff]
      omega
    · next h h' =>
      simp only [true_iff]
      omega

/-- The simulator when a job has taken an identifier and a seed. -/
def taken (s : Simulator) : Simulator :=
  { s with generator := s.generator.next.2, issued := s.issued + 1 }

/-- The job that the next circuit admitted makes. -/
def nextJob (name : Nat → JobId) (clock : Clock) (c : Circuit) (shots : Nat) (s : Simulator)
    (report : Circuit.Panic → String := reportOf s.issued) : StoredJob :=
  .ofRun (name s.issued) s.capabilities.name clock c shots s.generator.next.1 report

variable {report : Circuit.Panic → String} {name : Nat → JobId} {clock : Clock} {c : Circuit}
  {shots : Nat} {s : Simulator}

/-- A circuit that is admitted is run and its job stored. -/
theorem submit_of_ok (h : checkJob s.capabilities c shots = .ok ()) :
    submit report name clock c shots s =
      (.ok (name s.issued),
        s.taken.store (name s.issued) (nextJob name clock c shots s report)) := by
  unfold submit
  rw [h]
  rfl

/-- A circuit that is refused changes nothing. -/
theorem submit_of_error {e : BackendError} (h : checkJob s.capabilities c shots = .error e) :
    submit report name clock c shots s = (.error e, s) := by
  unfold submit
  rw [h]

/-- **Waiting for the job just stored gives what came of its run.** -/
theorem result_store_nextJob :
    (result (name s.issued)
        (s.taken.store (name s.issued) (nextJob name clock c shots s report))).1 =
      match c.taskResult shots s.generator.next.1 clock.elapsedMs report with
      | .ok r => .ok r
      | .error e => .error (.jobFailed e.message) := by
  unfold result
  rw [find?_store]
  exact StoredJob.handOut_ofRun _ _ _ _ _ _ _

end Simulator

end QuantumBlocks
