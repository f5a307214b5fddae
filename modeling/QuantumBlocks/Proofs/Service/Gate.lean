import QuantumBlocks.Proofs.Execution.Calls
import QuantumBlocks.Service.Router

/-!
# The gate in front of executions

A request to run a program is looked at before the backend hears of it. It is refused if it has no
blocks or asks for a number of shots out of range, and a request with both flaws for the first.
What passes is executed with the number of shots that it asks for.

* `checkRequest_eq_ok_iff`, `checkRequest_eq_error_iff` — which requests pass, and why others do not
* `answered` — the three ways in which a request is answered
* `executeResponse_gate` — what the answer and the questions to the backend are
-/

namespace QuantumBlocks.Service

/-! ## Passing -/

/-- The number of shots of a request is out of range. -/
def ExecuteRequest.AsksBeyond (r : ExecuteRequest) : Prop := r.shots < 1 ∨ 10000 < r.shots

namespace Server

variable {r : ExecuteRequest}

theorem checkRequest_of_nil (h : r.blocks = []) : checkRequest r = .error .noBlocks := by
  rw [checkRequest, h]
  rfl

theorem checkRequest_of_ne_nil (h : r.blocks ≠ []) :
    checkRequest r =
      if 1 ≤ r.shots ∧ r.shots ≤ 10000 then .ok r.shots.toNat else .error .shotsOutOfRange := by
  rw [checkRequest, if_neg (by simpa using h)]
  rfl

/-- **The requests that pass** are executed with the number of shots that they ask for. -/
theorem checkRequest_eq_ok_iff {shots : Nat} :
    checkRequest r = .ok shots ↔ r.blocks ≠ [] ∧ ¬r.AsksBeyond ∧ (shots : Int) = r.shots := by
  unfold ExecuteRequest.AsksBeyond
  by_cases h : r.blocks = []
  · simp [checkRequest_of_nil h, h]
  · rw [checkRequest_of_ne_nil h]
    split
    next hrange =>
      rw [Except.ok.injEq]
      constructor
      · intro hshots
        exact ⟨h, by omega, by omega⟩
      · rintro ⟨-, -, hshots⟩
        omega
    next hrange =>
      simp only [reduceCtorEq, false_iff]
      rintro ⟨-, hwithin, -⟩
      omega

/-- **The requests that are refused**, the lack of blocks before the number of shots. -/
theorem checkRequest_eq_error_iff {refusal : Refusal} :
    checkRequest r = .error refusal ↔
      r.blocks = [] ∧ refusal = .noBlocks ∨
        r.blocks ≠ [] ∧ r.AsksBeyond ∧ refusal = .shotsOutOfRange := by
  unfold ExecuteRequest.AsksBeyond
  by_cases h : r.blocks = []
  · simp [checkRequest_of_nil h, h, eq_comm]
  · rw [checkRequest_of_ne_nil h]
    split
    next hrange =>
      simp only [reduceCtorEq, false_iff]
      rintro (⟨hnil, -⟩ | ⟨-, hbeyond, -⟩)
      · exact h hnil
      · omega
    next hrange =>
      rw [Except.error.injEq]
      constructor
      · rintro rfl
        exact .inr ⟨h, by omega, rfl⟩
      · rintro (⟨hnil, -⟩ | ⟨-, -, rfl⟩)
        · exact absurd hnil h
        · rfl

/-! ## Answers -/

variable {σ : Type} (s : Server σ) {state : σ}

theorem executeResponse_of_error {refusal : Refusal} (h : checkRequest r = .error refusal) :
    s.executeResponse r state = (.ofBody 400 (.refusal refusal), state) := by
  have hrefused : s.execute r state = (.error refusal, state) := s.execute_of_refused h state
  simp only [executeResponse, bind, StateT.bind, hrefused]
  rfl

theorem executeResponse_of_ok {shots : Nat} (h : checkRequest r = .ok shots) :
    s.executeResponse r state =
      (.ofBody 200 (.outcome (s.executor.execute r.blocks shots state).1),
        (s.executor.execute r.blocks shots state).2) := by
  have hexecuted : s.execute r state =
      (.ok (s.executor.execute r.blocks shots state).1,
        (s.executor.execute r.blocks shots state).2) := by
    unfold execute
    rw [h]
    rfl
  simp only [executeResponse, bind, StateT.bind, hexecuted]
  rfl

/-- The server on its backend with a log. -/
def logged (w : s.executor.backend.Waiting) : Server (σ × List Call) :=
  ⟨s.executor.logged w, s.allowAnyOrigin⟩

/-- How a request can be answered: the response, the backend that it leaves, and the questions that
the backend was asked. -/
inductive Answered (w : s.executor.backend.Waiting) (r : ExecuteRequest) (state : σ) :
    Response → σ → List Call → Prop where
  | blockless (h : r.blocks = []) :
      Answered w r state (.ofBody 400 (.refusal .noBlocks)) state []
  | beyond (h : r.blocks ≠ []) (hbeyond : r.AsksBeyond) :
      Answered w r state (.ofBody 400 (.refusal .shotsOutOfRange)) state []
  | executed {shots : Nat} (h : r.blocks ≠ []) (hwithin : ¬r.AsksBeyond)
      (hshots : (shots : Int) = r.shots) :
      Answered w r state (.ofBody 200 (.outcome (s.executor.execute r.blocks shots state).1))
        (s.executor.execute r.blocks shots state).2 (s.executor.calls w r.blocks shots state)

/-- **A request is answered as `Answered` says**, with a log of the questions and without. -/
theorem answered (w : s.executor.backend.Waiting) (r : ExecuteRequest) (state : σ) :
    ∃ response left calls, Answered s w r state response left calls ∧
      s.executeResponse r state = (response, left) ∧
      (s.logged w).executeResponse r (state, []) = (response, (left, calls)) := by
  cases h : checkRequest r with
  | error refusal =>
    refine ⟨.ofBody 400 (.refusal refusal), state, [], ?_, s.executeResponse_of_error h,
      (s.logged w).executeResponse_of_error h⟩
    rcases checkRequest_eq_error_iff.mp h with ⟨hnil, rfl⟩ | ⟨hne, hbeyond, rfl⟩
    · exact .blockless hnil
    · exact .beyond hne hbeyond
  | ok shots =>
    obtain ⟨hne, hwithin, hshots⟩ := checkRequest_eq_ok_iff.mp h
    refine ⟨_, _, _, .executed hne hwithin hshots, s.executeResponse_of_ok h, ?_⟩
    have hlog := s.executor.logs_execute w r.blocks shots state []
    have hcalls : s.executor.calls w r.blocks shots state
        = ((s.executor.logged w).execute r.blocks shots (state, [])).2.2 := rfl
    rw [(s.logged w).executeResponse_of_ok h, hcalls]
    have hexecutor : (s.logged w).executor = s.executor.logged w := rfl
    rw [hexecutor, hlog]

variable {s} {w : s.executor.backend.Waiting} {response : Response} {left : σ} {calls : List Call}

theorem Answered.status_eq_400_iff (h : Answered s w r state response left calls) :
    response.status = 400 ↔ r.blocks = [] ∨ r.AsksBeyond := by
  cases h with
  | blockless h => simp [Response.ofBody, h]
  | beyond h hbeyond => simp [Response.ofBody, h, hbeyond]
  | executed h hwithin _ => simp [Response.ofBody, h, hwithin]

/-- No submission has more shots than a request may ask for, or than the limits allow. -/
theorem Answered.shots_le (h : Answered s w r state response left calls) {c : Circuit} {n : Nat}
    (hn : .submit c n ∈ calls) : n ≤ min 10000 s.executor.limits.maxShots := by
  cases h with
  | blockless h => cases hn
  | beyond h hbeyond => cases hn
  | executed h hwithin hshots =>
    obtain ⟨-, -, rfl⟩ := Executor.submit_mem_calls_iff.mp hn
    rw [ExecuteRequest.AsksBeyond] at hwithin
    refine Nat.le_min.mpr ⟨?_, s.executor.limits.clampShots_le _⟩
    exact (Nat.min_le_left _ _).trans (by omega)

/-- **The gate in front of executions.** A request is answered with status 400 exactly if it has no
blocks or the number of shots is out of range, and the answer says which, the first if both hold.
Such a request leaves the backend as it is, which is not asked anything. Any other request is
answered with status 200 and what comes of an execution with the number of shots that it asks for,
whatever that is, and the backend is asked what such an execution asks. Nothing is submitted with
more shots than a request may ask for, or than the limits allow. -/
theorem executeResponse_gate (s : Server σ) (w : s.executor.backend.Waiting)
    (r : ExecuteRequest) (state : σ) :
    ∃ response left calls,
      s.executeResponse r state = (response, left) ∧
      (s.logged w).executeResponse r (state, []) = (response, (left, calls)) ∧
      (response.status = 400 ↔ r.blocks = [] ∨ r.shots < 1 ∨ 10000 < r.shots) ∧
      (response.status = 400 → calls = [] ∧ left = state ∧
        ∀ p, response.body.toValue? p = some (.object
          [("detail", .string (if r.blocks = [] then "No blocks provided"
              else "Shots must be between 1 and 10000")),
            ("error", .string "bad_request")])) ∧
      (response.status ≠ 400 → ∃ shots : Nat, (shots : Int) = r.shots ∧
        response = .ofBody 200 (.outcome (s.executor.execute r.blocks shots state).1) ∧
        left = (s.executor.execute r.blocks shots state).2 ∧
        calls = s.executor.calls w r.blocks shots state) ∧
      ∀ c n, .submit c n ∈ calls → n ≤ min 10000 s.executor.limits.maxShots := by
  obtain ⟨response, left, calls, h, hplain, hlogged⟩ := s.answered w r state
  refine ⟨response, left, calls, hplain, hlogged, h.status_eq_400_iff, ?_, ?_,
    fun c n hn => h.shots_le hn⟩
  · intro hrefused
    cases h with
    | blockless h =>
      rw [if_pos h]
      exact ⟨rfl, rfl, fun _ => rfl⟩
    | beyond h hbeyond =>
      rw [if_neg h]
      exact ⟨rfl, rfl, fun _ => rfl⟩
    | executed h hwithin hshots => cases hrefused
  · intro hpassed
    cases h with
    | blockless h => exact absurd rfl hpassed
    | beyond h hbeyond => exact absurd rfl hpassed
    | executed h hwithin hshots => exact ⟨_, hshots, rfl, rfl, rfl⟩

/-- The greatest number of shots that passes, with limits that allow fewer, and the next one. -/
theorem executeResponse_gate_boundary :
    let backend := Backend.constant "stub" (.ok .always) (.ok "1") (.ok (.failed "boom"))
      (.error (.backend "none"))
    let s : Server Unit := { executor := ⟨backend, ⟨1, 0, 3⟩⟩ }
    let answer (shots : Int) :=
      (s.logged (.polling rfl)).executeResponse ⟨[.createCircuit 1], shots⟩ ((), [])
    (answer 10000).1.status ≠ 400 ∧
      (answer 10000).2.2
        = [.availability, .submit (.withSize "scratch" 1 0) 3, .wait "1", .status "1"] ∧
      (answer 10001).1.status = 400 ∧ (answer 10001).2.2 = [] := by
  intro backend s answer
  obtain ⟨_, _, _, -, hanswer, hiff, -, -⟩ :=
    executeResponse_gate s (.polling rfl) ⟨[.createCircuit 1], 10000⟩ ()
  obtain ⟨_, _, _, -, hnext, hiffNext, hrefused, -⟩ :=
    executeResponse_gate s (.polling rfl) ⟨[.createCircuit 1], 10001⟩ ()
  have hstatus := hiffNext.mpr (by decide)
  refine ⟨?_, rfl, ?_, ?_⟩
  · rw [show answer 10000 = _ from hanswer]
    exact fun h => absurd (hiff.mp h) (by decide)
  · rw [show answer 10001 = _ from hnext]
    exact hstatus
  · rw [show answer 10001 = _ from hnext]
    exact (hrefused hstatus).1

end Server

end QuantumBlocks.Service
