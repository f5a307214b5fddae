import QuantumBlocks.Execution
import QuantumBlocks.Proofs.Steps
import Mathlib.Data.List.Infix

/-!
# Outcomes on any backend

What comes of a program when nothing is known of the backend: it may refuse jobs, fail to accept
one, or never finish it, and it may change as it likes whenever it is asked.

* `run_eq_ok_some_iff` — a program gives counts exactly if it is prepared and its circuit runs
* `Ends` — the seven ways in which an execution can end, each with its own outcome
* `execute_eq_iff` — an execution ends in one of these ways, and in no other
* `execute_ends` — the same with the shape of the outcome and the origin of its error
-/

namespace QuantumBlocks

namespace Executor

variable {σ : Type} (x : Executor σ)

/-! ## Preparing and running -/

theorem prepare_eq_ok_iff {p : List Block} {o : Option Circuit} :
    x.prepare p = .ok o ↔ validate x.limits p = .ok () ∧ compile p = .ok o := by
  unfold prepare
  rw [bind_eq_ok_iff]
  constructor
  · rintro ⟨_, h⟩
    exact h
  · intro h
    exact ⟨(), h⟩

theorem prepare_of_error {p : List Block} {e : ProgramError}
    (h : validate x.limits p = .error e) : x.prepare p = .error e := by
  unfold prepare
  rw [h]
  rfl

theorem prepare_of_ok {p : List Block} (h : validate x.limits p = .ok ()) :
    x.prepare p = compile p := by
  unfold prepare
  rw [h]
  rfl

theorem runCircuit_of_error {c : Circuit} {shots : Nat} {s t : σ} {e : BackendError}
    (h : x.backend.submit c shots s = (.error e, t)) : x.runCircuit c shots s = (.error e, t) := by
  simp only [runCircuit, bind, StateT.bind, h]
  rfl

theorem runCircuit_of_ok {c : Circuit} {shots : Nat} {s t : σ} {job : JobId}
    (h : x.backend.submit c shots s = (.ok job, t)) :
    x.runCircuit c shots s = x.backend.wait job t := by
  simp only [runCircuit, bind, StateT.bind, h]

theorem run_of_error {p : List Block} {e : ProgramError} (h : x.prepare p = .error e)
    (shots : Nat) (s : σ) : x.run p shots s = (.error (.program e), s) := by
  unfold run
  rw [h]
  rfl

theorem run_of_none {p : List Block} (h : x.prepare p = .ok none) (shots : Nat) (s : σ) :
    x.run p shots s = (.ok none, s) := by
  unfold run
  rw [h]
  rfl

/-- What a run makes of the answer of the backend. -/
def received : Answer ExecutionResult → Except ExecutionError (Option Counts)
  | .error e => .error (.backend e)
  | .ok r => .ok (some r.counts)

theorem run_of_some {p : List Block} {c : Circuit} (h : x.prepare p = .ok (some c)) (shots : Nat)
    (s : σ) :
    x.run p shots s =
      (received (x.runCircuit c (x.limits.clampShots shots) s).1,
        (x.runCircuit c (x.limits.clampShots shots) s).2) := by
  unfold run
  rw [h]
  simp only [bind, StateT.bind]
  cases x.runCircuit c (x.limits.clampShots shots) s with
  | mk answer t =>
    cases answer with
    | error e => rfl
    | ok r => rfl

/-- Counts come exactly of a program that is prepared and whose circuit runs. -/
theorem run_eq_ok_some_iff {p : List Block} {shots : Nat} {s : σ} {counts : Counts} :
    (x.run p shots s).1 = .ok (some counts) ↔
      ∃ c, x.prepare p = .ok (some c) ∧
        ∃ r, (x.runCircuit c (x.limits.clampShots shots) s).1 = .ok r ∧ r.counts = counts := by
  cases h : x.prepare p with
  | error e => simp [x.run_of_error h]
  | ok o =>
    cases o with
    | none => simp [x.run_of_none h]
    | some c =>
      rw [x.run_of_some h]
      cases hr : (x.runCircuit c (x.limits.clampShots shots) s).1 with
      | error e => simp [received, hr]
      | ok r => simp [received, hr]

theorem success_outcome_iff {shots : Nat} {r : Except ExecutionError (Option Counts)} :
    (outcome shots r).success = true ↔ ∃ counts, r = .ok (some counts) := by
  unfold outcome
  split
  · simp [ExecutionOutcome.succeeded]
  · simp [ExecutionOutcome.failed]
  · simp [ExecutionOutcome.failed]

/-- An outcome is a success exactly if there are counts, and then it has them and their
summary. -/
theorem outcome_of_success {shots : Nat} {r : Except ExecutionError (Option Counts)}
    (h : (outcome shots r).success = true) :
    ∃ counts, r = .ok (some counts) ∧
      outcome shots r = .succeeded counts (counts.summary shots) := by
  obtain ⟨counts, rfl⟩ := success_outcome_iff.mp h
  exact ⟨counts, rfl, rfl⟩

/-! ## Asking the backend -/

/-- The backend says that it takes jobs. -/
def TakesJobs (s : σ) : Prop :=
  ∃ a, (x.backend.availability s).1 = .ok a ∧ a.isAvailable = true

/-- The backend once it was asked whether it takes jobs. -/
def asked (s : σ) : σ := (x.backend.availability s).2

variable {x} {p : List Block} {shots : Nat} {s : σ}

theorem isAvailable_eq :
    x.backend.isAvailable s =
      (match (x.backend.availability s).1 with
        | .ok a => a.isAvailable
        | .error _ => false, x.asked s) := by
  unfold Backend.isAvailable asked
  simp only [bind, StateT.bind]
  cases x.backend.availability s with
  | mk answer t =>
    cases answer with
    | error e => rfl
    | ok a => rfl

theorem isAvailable_iff : (x.backend.isAvailable s).1 = true ↔ x.TakesJobs s := by
  rw [isAvailable_eq, TakesJobs]
  cases (x.backend.availability s).1 with
  | error e => simp
  | ok a => simp

theorem execute_eq :
    (x.execute p shots s).1 =
      if (x.backend.isAvailable s).1 then outcome shots (x.run p shots (x.asked s)).1
      else .failed (x.backend.name ++ " is not installed") .zero := by
  have hasked : (x.backend.isAvailable s).2 = x.asked s := by
    rw [isAvailable_eq]
  rw [← hasked]
  simp only [execute, bind, StateT.bind]
  cases x.backend.isAvailable s with
  | mk available t =>
    cases available with
    | true => rfl
    | false => rfl

theorem execute_of_takesJobs (h : x.TakesJobs s) :
    (x.execute p shots s).1 = outcome shots (x.run p shots (x.asked s)).1 := by
  rw [execute_eq, if_pos (isAvailable_iff.mpr h)]

theorem execute_of_not_takesJobs (h : ¬ x.TakesJobs s) :
    (x.execute p shots s).1 = .failed (x.backend.name ++ " is not installed") .zero := by
  rw [execute_eq, if_neg (mt isAvailable_iff.mp h)]

/-- A program that is prepared gives the counts of its circuit, or the error that the backend
answers for it. -/
theorem execute_of_some {c : Circuit} (h : x.TakesJobs s) (hp : x.prepare p = .ok (some c)) :
    (x.execute p shots s).1 =
      match (x.runCircuit c (x.limits.clampShots shots) (x.asked s)).1 with
      | .error e => .failed ("Execution error: " ++ e.message) .measured
      | .ok r => .succeeded r.counts (r.counts.summary shots) := by
  rw [execute_of_takesJobs h, x.run_of_some hp]
  cases (x.runCircuit c (x.limits.clampShots shots) (x.asked s)).1 with
  | error e => rfl
  | ok r => rfl

/-! ## How an execution ends -/

variable (x p shots s)

/-- **How an execution can end.** The ways exclude each other: whatever stops an execution
presupposes that nothing stopped it before, the program being checked as a whole before any of it
is compiled. -/
inductive Ends : ExecutionOutcome → Prop where
  | unavailable (h : ¬ x.TakesJobs s) :
      Ends (.failed (x.backend.name ++ " is not installed") .zero)
  | invalid {e : ProgramError} (h : x.TakesJobs s) (he : validate x.limits p = .error e) :
      Ends (.failed e.message .measured)
  | uncompiled {e : ProgramError} (h : x.TakesJobs s) (hvalid : validate x.limits p = .ok ())
      (he : compile p = .error e) :
      Ends (.failed e.message .measured)
  | circuitless (h : x.TakesJobs s) (hvalid : validate x.limits p = .ok ())
      (hc : compile p = .ok none) :
      Ends (.failed noCircuitMessage .zero)
  | unsubmitted {c : Circuit} {e : BackendError} {t : σ} (h : x.TakesJobs s)
      (hvalid : validate x.limits p = .ok ()) (hc : compile p = .ok (some c))
      (he : x.backend.submit c (x.limits.clampShots shots) (x.asked s) = (.error e, t)) :
      Ends (.failed ("Execution error: " ++ e.message) .measured)
  | unfinished {c : Circuit} {job : JobId} {e : BackendError} {t : σ} (h : x.TakesJobs s)
      (hvalid : validate x.limits p = .ok ()) (hc : compile p = .ok (some c))
      (hjob : x.backend.submit c (x.limits.clampShots shots) (x.asked s) = (.ok job, t))
      (he : (x.backend.wait job t).1 = .error e) :
      Ends (.failed ("Execution error: " ++ e.message) .measured)
  | finished {c : Circuit} {job : JobId} {r : ExecutionResult} {t : σ} (h : x.TakesJobs s)
      (hvalid : validate x.limits p = .ok ()) (hc : compile p = .ok (some c))
      (hjob : x.backend.submit c (x.limits.clampShots shots) (x.asked s) = (.ok job, t))
      (hr : (x.backend.wait job t).1 = .ok r) :
      Ends (.succeeded r.counts (r.counts.summary shots))

variable {x p shots s}

/-- Whatever an execution can end with is what it ends with. -/
theorem Ends.execute_eq {o : ExecutionOutcome} (h : x.Ends p shots s o) :
    (x.execute p shots s).1 = o := by
  cases h with
  | unavailable h => exact execute_of_not_takesJobs h
  | invalid h he =>
    rw [execute_of_takesJobs h, x.run_of_error (x.prepare_of_error he)]
    rfl
  | uncompiled h hvalid he =>
    rw [execute_of_takesJobs h, x.run_of_error ((x.prepare_of_ok hvalid).trans he)]
    rfl
  | circuitless h hvalid hc =>
    rw [execute_of_takesJobs h, x.run_of_none ((x.prepare_of_ok hvalid).trans hc)]
    rfl
  | unsubmitted h hvalid hc he =>
    rw [execute_of_some h ((x.prepare_of_ok hvalid).trans hc), x.runCircuit_of_error he]
  | unfinished h hvalid hc hjob he =>
    rw [execute_of_some h ((x.prepare_of_ok hvalid).trans hc), x.runCircuit_of_ok hjob, he]
  | finished h hvalid hc hjob hr =>
    rw [execute_of_some h ((x.prepare_of_ok hvalid).trans hc), x.runCircuit_of_ok hjob, hr]

/-- Every execution ends. -/
theorem exists_ends (x : Executor σ) (p : List Block) (shots : Nat) (s : σ) :
    ∃ o, x.Ends p shots s o := by
  by_cases h : x.TakesJobs s
  case neg => exact ⟨_, .unavailable h⟩
  cases hvalid : validate x.limits p with
  | error e => exact ⟨_, .invalid h hvalid⟩
  | ok _ =>
    cases hc : compile p with
    | error e => exact ⟨_, .uncompiled h hvalid hc⟩
    | ok o =>
      cases o with
      | none => exact ⟨_, .circuitless h hvalid hc⟩
      | some c =>
        cases hjob : x.backend.submit c (x.limits.clampShots shots) (x.asked s) with
        | mk answer t =>
          cases answer with
          | error e => exact ⟨_, .unsubmitted h hvalid hc hjob⟩
          | ok job =>
            cases hr : (x.backend.wait job t).1 with
            | error e => exact ⟨_, .unfinished h hvalid hc hjob hr⟩
            | ok r => exact ⟨_, .finished h hvalid hc hjob hr⟩

/-- **An execution ends as `Ends` says**, and in no other way. -/
theorem execute_eq_iff {o : ExecutionOutcome} :
    (x.execute p shots s).1 = o ↔ x.Ends p shots s o := by
  constructor
  · rintro rfl
    obtain ⟨o, ho⟩ := x.exists_ends p shots s
    rw [ho.execute_eq]
    exact ho
  · intro h
    exact h.execute_eq

end Executor

/-! ## Texts of errors -/

/-- A text that starts as the errors of backends do. -/
def IsExecutionError (m : String) : Prop := "Execution error: ".toList <+: m.toList

instance (m : String) : Decidable (IsExecutionError m) :=
  inferInstanceAs (Decidable ("Execution error: ".toList <+: m.toList))

/-- A text whose first character is not that of the errors of backends. -/
def StartsOtherwise (m : String) : Prop := ∃ c, m.toList.head? = some c ∧ c ≠ 'E'

theorem StartsOtherwise.append {a : String} (h : StartsOtherwise a) (b : String) :
    StartsOtherwise (a ++ b) := by
  obtain ⟨c, hhead, hc⟩ := h
  refine ⟨c, ?_, hc⟩
  rw [String.toList_append, List.head?_append, hhead]
  rfl

theorem StartsOtherwise.not_isExecutionError {m : String} (h : StartsOtherwise m) :
    ¬ IsExecutionError m := by
  rintro ⟨rest, hrest⟩
  obtain ⟨c, hhead, hc⟩ := h
  rw [← hrest] at hhead
  exact hc (Option.some.inj hhead).symm

theorem CircuitError.startsOtherwise (e : CircuitError) : StartsOtherwise e.message := by
  cases e with
  | qubitNotFound qubit gate =>
    have h : StartsOtherwise "Qubit " := ⟨'Q', rfl, by decide⟩
    exact ((h.append _).append _).append _
  | clbitNotFound clbit gate =>
    have h : StartsOtherwise "Classical bit " := ⟨'C', rfl, by decide⟩
    exact ((h.append _).append _).append _
  | qubitCountMismatch gate expected got =>
    have h : StartsOtherwise "Gate '" := ⟨'G', rfl, by decide⟩
    exact ((((h.append _).append _).append _).append _).append _
  | measureArity qubits clbits =>
    have h : StartsOtherwise "Measurement maps " := ⟨'M', rfl, by decide⟩
    exact (((h.append _).append _).append _).append _
  | duplicateQubit qubit gate =>
    have h : StartsOtherwise "Duplicate qubit " := ⟨'D', rfl, by decide⟩
    exact ((h.append _).append _).append _

theorem ProgramError.startsOtherwise (e : ProgramError) : StartsOtherwise e.message := by
  cases e with
  | tooManyQubits max =>
    have h : StartsOtherwise "Maximum " := ⟨'M', rfl, by decide⟩
    exact (h.append _).append _
  | tooManyGates max =>
    have h : StartsOtherwise "Maximum " := ⟨'M', rfl, by decide⟩
    exact (h.append _).append _
  | invalidQubitCount got =>
    have h : StartsOtherwise "Circuit must have at least 1 qubit, got " := ⟨'C', rfl, by decide⟩
    exact h.append _
  | qubitOutOfRange qubit numQubits =>
    have h : StartsOtherwise "Qubit " := ⟨'Q', rfl, by decide⟩
    exact (((h.append _).append _).append _).append _
  | sameControlTarget => exact ⟨'C', rfl, by decide⟩
  | circuit e => exact e.startsOtherwise

theorem startsOtherwise_noCircuitMessage : StartsOtherwise noCircuitMessage :=
  ⟨'N', rfl, by decide⟩

/-- What is said of a backend that takes no jobs starts so for two kinds of names: those that start
so themselves, and the one that lacks only the blank. -/
theorem isExecutionError_notInstalled_iff {name : String} :
    IsExecutionError (name ++ " is not installed") ↔
      IsExecutionError name ∨ name = "Execution error:" := by
  unfold IsExecutionError
  rw [String.toList_append]
  constructor
  · rintro ⟨rest, hrest⟩
    rcases List.append_eq_append_iff.mp hrest with ⟨more, hname, -⟩ | ⟨tail, htail, hrest⟩
    · exact Or.inl ⟨more, hname.symm⟩
    · -- What of the prefix is not in the name is a blank or nothing.
      have hsuffix : tail ∈ "Execution error: ".toList.tails :=
        (List.mem_tails _ _).mpr ⟨name.toList, htail.symm⟩
      have hprefix : tail <+: " is not installed".toList := ⟨rest, hrest.symm⟩
      have hends : ∀ tail ∈ "Execution error: ".toList.tails,
          tail <+: " is not installed".toList → tail = [] ∨ tail = [' '] := by
        decide
      rcases hends tail hsuffix hprefix with rfl | rfl
      · rw [List.append_nil] at htail
        exact Or.inl (htail ▸ List.prefix_rfl)
      · have hblank : "Execution error:".toList ++ [' '] = name.toList ++ [' '] := htail
        exact Or.inr (String.toList_injective (List.append_cancel_right hblank)).symm
  · rintro (h | rfl)
    · exact h.trans (List.prefix_append _ _)
    · decide

/-! ## Outcomes -/

namespace Executor

variable {σ : Type} {x : Executor σ} {p : List Block} {shots : Nat} {s : σ} {o : ExecutionOutcome}

theorem Ends.succeeded_or_failed (h : x.Ends p shots s o) :
    (∃ counts : Counts, o = .succeeded counts (counts.summary shots)) ∨
      ∃ error time, o = .failed error time := by
  cases h with
  | unavailable _ => exact Or.inr ⟨_, _, rfl⟩
  | invalid _ _ => exact Or.inr ⟨_, _, rfl⟩
  | uncompiled _ _ _ => exact Or.inr ⟨_, _, rfl⟩
  | circuitless _ _ _ => exact Or.inr ⟨_, _, rfl⟩
  | unsubmitted _ _ _ _ => exact Or.inr ⟨_, _, rfl⟩
  | unfinished _ _ _ _ _ => exact Or.inr ⟨_, _, rfl⟩
  | finished _ _ _ _ _ => exact Or.inl ⟨_, rfl⟩

/-- An error that starts as those of backends do is the answer of the backend to the circuit, if
the name of the backend cannot be mistaken for one. -/
theorem Ends.of_isExecutionError (h : x.Ends p shots s o) {m : String} (hm : o.error = some m)
    (herror : IsExecutionError m) (hname : ¬ IsExecutionError x.backend.name)
    (hblank : x.backend.name ≠ "Execution error:") :
    ∃ c e, x.TakesJobs s ∧ x.prepare p = .ok (some c) ∧
      (x.runCircuit c (x.limits.clampShots shots) (x.asked s)).1 = .error e ∧
      m = "Execution error: " ++ e.message := by
  -- The texts of a program that fails start with other letters than those of a backend.
  cases h with
  | unavailable _ =>
    cases hm
    rcases isExecutionError_notInstalled_iff.mp herror with h | h
    · exact absurd h hname
    · exact absurd h hblank
  | @invalid e _ _ =>
    cases hm
    exact absurd herror e.startsOtherwise.not_isExecutionError
  | @uncompiled e _ _ _ =>
    cases hm
    exact absurd herror e.startsOtherwise.not_isExecutionError
  | circuitless _ _ _ =>
    cases hm
    exact absurd herror startsOtherwise_noCircuitMessage.not_isExecutionError
  | unsubmitted h hvalid hc he =>
    cases hm
    exact ⟨_, _, h, (x.prepare_of_ok hvalid).trans hc, by rw [x.runCircuit_of_error he], rfl⟩
  | unfinished h hvalid hc hjob he =>
    cases hm
    exact ⟨_, _, h, (x.prepare_of_ok hvalid).trans hc, by rw [x.runCircuit_of_ok hjob, he], rfl⟩
  | finished _ _ _ _ _ => cases hm

theorem Ends.executionTime_eq_zero_iff (h : x.Ends p shots s o) :
    o.executionTime = .zero ↔ ¬ x.TakesJobs s ∨ x.prepare p = .ok none := by
  rw [x.prepare_eq_ok_iff]
  cases h with
  | unavailable h => simp [ExecutionOutcome.failed, h]
  | invalid h he => simp [ExecutionOutcome.failed, h, he]
  | uncompiled h hvalid he => simp [ExecutionOutcome.failed, h, he]
  | circuitless h hvalid hc => simp [ExecutionOutcome.failed, hvalid, hc]
  | unsubmitted h hvalid hc _ => simp [ExecutionOutcome.failed, h, hc]
  | unfinished h hvalid hc _ _ => simp [ExecutionOutcome.failed, h, hc]
  | finished h hvalid hc _ _ => simp [ExecutionOutcome.succeeded, h, hc]

/-- **Outcomes on any backend.** An execution ends in one of the ways of `Ends`. It has counts and
a text exactly if it is a success and an error exactly if it is none, so a failure has neither of
the first two. An error that starts as those of backends do comes from the submission of the
circuit or from waiting for its job, unless the name of the backend looks like such an error. No
time is taken exactly if the backend takes no jobs or the program creates no circuit. -/
theorem execute_ends (x : Executor σ) (p : List Block) (shots : Nat) (s : σ) :
    let o := (x.execute p shots s).1
    x.Ends p shots s o ∧
    (o.success = true ↔ o.counts.isSome = true ∧ o.resultText.isSome = true) ∧
    (o.success = true ↔ o.error = none) ∧
    (o.success = false → o.counts = none ∧ o.resultText = none) ∧
    (∀ m, o.error = some m → IsExecutionError m → ¬ IsExecutionError x.backend.name →
      x.backend.name ≠ "Execution error:" →
      ∃ c e, x.TakesJobs s ∧ x.prepare p = .ok (some c) ∧
        (x.runCircuit c (x.limits.clampShots shots) (x.asked s)).1 = .error e ∧
        m = "Execution error: " ++ e.message) ∧
    (o.executionTime = .zero ↔ ¬ x.TakesJobs s ∨ x.prepare p = .ok none) := by
  intro o
  have hends : x.Ends p shots s o := execute_eq_iff.mp rfl
  have herror := fun m (hm : o.error = some m) => hends.of_isExecutionError hm
  have htime := hends.executionTime_eq_zero_iff
  rcases hends.succeeded_or_failed with ⟨counts, ho⟩ | ⟨error, time, ho⟩
  · refine ⟨hends, ?_, ?_, ?_, herror, htime⟩
    all_goals simp [ho, ExecutionOutcome.succeeded]
  · refine ⟨hends, ?_, ?_, ?_, herror, htime⟩
    all_goals simp [ho, ExecutionOutcome.failed]

end Executor

/-- A backend that gives the same answers whenever it is asked. -/
def Backend.constant (name : String) (availability : Answer Availability) (submit : Answer JobId)
    (status : Answer JobStatus) (result : Answer ExecutionResult) : Backend Unit where
  name := name
  capabilities := .simulator 20
  availability := return availability
  submit _ _ := return submit
  status _ := return status
  result _ := return result
  pause _ := return ()

namespace Executor

/-- A job that fails after a circuit was accepted: its error is told from all others by how it
starts. -/
theorem execute_ends_failed_job :
    let backend := Backend.constant "stub" (.ok .always) (.ok "1") (.ok (.failed "boom"))
      (.error (.backend "none"))
    let x : Executor Unit := ⟨backend, {}⟩
    let o := (x.execute [.createCircuit 1, .measureAll] 5 ()).1
    o.error = some "Execution error: Job failed: boom" ∧ o.executionTime = .measured ∧
      ∃ c e, x.TakesJobs () ∧ x.prepare [.createCircuit 1, .measureAll] = .ok (some c) ∧
        (x.runCircuit c 5 ()).1 = .error e ∧
        "Execution error: Job failed: boom" = "Execution error: " ++ e.message := by
  intro backend x o
  have herror : o.error = some "Execution error: Job failed: boom" := rfl
  obtain ⟨-, -, -, -, hfails, -⟩ := execute_ends x [.createCircuit 1, .measureAll] 5 ()
  exact ⟨herror, rfl, hfails _ herror (by decide) (by decide) (by decide)⟩

/-- What is said of a backend that takes no jobs can start as the errors of backends do although
the name of the backend does not: the sentence that follows the name brings the blank. -/
theorem isExecutionError_not_only_of_backend :
    ¬ ∀ (x : Executor Unit) (p : List Block) (shots : Nat) (s : Unit) (m : String),
      ¬ IsExecutionError x.backend.name → (x.execute p shots s).1.error = some m →
      IsExecutionError m →
      ∃ c e, x.TakesJobs s ∧ x.prepare p = .ok (some c) ∧
        (x.runCircuit c (x.limits.clampShots shots) (x.asked s)).1 = .error e ∧
        m = "Execution error: " ++ e.message := by
  intro h
  let backend := Backend.constant "Execution error:" (.ok (.unavailable "off")) (.ok "1")
    (.ok .completed) (.error (.backend "none"))
  obtain ⟨c, e, ⟨a, ha, htakes⟩, -⟩ :=
    h ⟨backend, {}⟩ [] 1 () "Execution error: is not installed" (by decide) rfl (by decide)
  cases ha
  cases htakes

end Executor

end QuantumBlocks
