import QuantumBlocks.Proofs.Execution.Outcome
import QuantumBlocks.Proofs.Program.WithinLimits

/-!
# What a backend is asked

An execution is watched from outside: its backend is given a log, in which each question is noted
when it is asked. The log changes nothing, so what is read in it afterwards is what the backend
was asked.

* `Logs` — doing the same and adding questions to the log
* `logs_execute` — the questions of an execution
* `execute_logged` — nothing that is not within the limits is submitted
-/

namespace QuantumBlocks

/-! ## Questions -/

/-- A question to a backend. -/
inductive Call where
  | availability
  | submit (circuit : Circuit) (shots : Nat)
  | wait (job : JobId)
  | status (job : JobId)
  | result (job : JobId)
  deriving DecidableEq

/-- Whether a question hands over a circuit. -/
def Call.isSubmission : Call → Bool
  | .submit _ _ => true
  | .availability | .wait _ | .status _ | .result _ => false

section Logs

variable {σ α β : Type}

/-- Asks, and notes the question. -/
def noting (call : Call) (ask : StateM σ α) : StateM (σ × List Call) α := fun s =>
  ((ask s.1).1, ((ask s.1).2, s.2 ++ [call]))

/-- Does the same and leaves the log as it is. -/
def unnoted (act : StateM σ α) : StateM (σ × List Call) α := fun s =>
  ((act s.1).1, ((act s.1).2, s.2))

/-- `logged` does what `plain` does and adds `calls` to the log. -/
def Logs (logged : StateM (σ × List Call) α) (plain : StateM σ α) (calls : σ → List Call) :
    Prop :=
  ∀ s log, logged (s, log) = ((plain s).1, ((plain s).2, log ++ calls s))

theorem logs_noting (call : Call) (ask : StateM σ α) :
    Logs (noting call ask) ask fun _ => [call] :=
  fun _ _ => rfl

theorem logs_unnoted (act : StateM σ α) : Logs (unnoted act) act fun _ => [] := by
  intro s log
  rw [List.append_nil]
  rfl

theorem logs_pure (a : α) : Logs (pure a : StateM (σ × List Call) α) (pure a) fun _ => [] := by
  intro s log
  rw [List.append_nil]
  rfl

/-- **One after the other**, the questions of the second follow those of the first. -/
theorem Logs.bind {m : StateM (σ × List Call) α} {a : StateM σ α} {calls : σ → List Call}
    {g : α → StateM (σ × List Call) β} {f : α → StateM σ β} {later : α → σ → List Call}
    (h : Logs m a calls) (hf : ∀ r, Logs (g r) (f r) (later r)) :
    Logs (m >>= g) (a >>= f) fun s => calls s ++ later (a s).1 (a s).2 := by
  intro s log
  have hm : (m >>= g) (s, log) = g (m (s, log)).1 (m (s, log)).2 := rfl
  have ha : (a >>= f) s = f (a s).1 (a s).2 := rfl
  rw [hm, h s log, hf, ha, List.append_assoc]

/-- What is done with an answer without asking anything adds no questions. -/
theorem Logs.bind_silent {m : StateM (σ × List Call) α} {a : StateM σ α} {calls : σ → List Call}
    {g : α → StateM (σ × List Call) β} {f : α → StateM σ β} (h : Logs m a calls)
    (hf : ∀ r, Logs (g r) (f r) fun _ => []) : Logs (m >>= g) (a >>= f) calls := by
  simpa only [List.append_nil] using h.bind hf

end Logs

/-! ## Backends with a log -/

namespace Backend

variable {σ : Type}

/-- How a backend waits for a job: by asking for its status again and again, as all do that do not
say otherwise, or in a way of its own. -/
inductive Waiting (b : Backend σ) where
  | polling (h : b.wait = fun job => pollForResult b.status b.result b.pause job maxPolls)
  | own

/-- A backend that notes what it is asked. Waiting is noted in any case, and what is asked while
waiting if the backend asks itself. -/
def logged (b : Backend σ) (w : b.Waiting) : Backend (σ × List Call) where
  name := b.name
  capabilities := b.capabilities
  availability := noting .availability b.availability
  submit circuit shots := noting (.submit circuit shots) (b.submit circuit shots)
  status job := noting (.status job) (b.status job)
  result job := noting (.result job) (b.result job)
  pause ms := unnoted (b.pause ms)
  wait job :=
    match w with
    | .polling _ => do
      noting (.wait job) (pure ())
      pollForResult (fun job => noting (.status job) (b.status job))
        (fun job => noting (.result job) (b.result job)) (fun ms => unnoted (b.pause ms)) job
        maxPolls
    | .own => noting (.wait job) (b.wait job)

/-- What is asked once the status of a job was answered, `again` being what another round asks. -/
def callsAfter (job : JobId) (again : σ → List Call) : Answer JobStatus → σ → List Call
  | .error _, _ => []
  | .ok .completed, _ => [.result job]
  | .ok (.failed _), _ => []
  | .ok .queued, s => again s
  | .ok .running, s => again s

variable (b : Backend σ)

/-- What is asked in up to `polls` rounds of waiting. -/
def pollCalls (job : JobId) : (polls : Nat) → σ → List Call
  | 0, _ => []
  | polls + 1, s =>
    .status job :: callsAfter job (fun t => pollCalls job polls (b.pause pollInterval t).2)
      (b.status job s).1 (b.status job s).2

theorem logs_pollForResult (job : JobId) (polls : Nat) :
    Logs
      (pollForResult (fun job => noting (.status job) (b.status job))
        (fun job => noting (.result job) (b.result job)) (fun ms => unnoted (b.pause ms)) job polls)
      (pollForResult b.status b.result b.pause job polls) (b.pollCalls job polls) := by
  induction polls with
  | zero => exact logs_pure _
  | succ polls ih =>
    have hagain := (logs_unnoted (b.pause pollInterval)).bind fun _ => ih
    refine Logs.bind (logs_noting (.status job) (b.status job))
      (?_ : ∀ answer, Logs _ _
        (callsAfter job (fun t => b.pollCalls job polls (b.pause pollInterval t).2) answer))
    intro answer
    match answer with
    | .error e => exact logs_pure _
    | .ok .completed => exact logs_noting _ _
    | .ok (.failed reason) => exact logs_pure _
    | .ok .queued => exact hagain
    | .ok .running => exact hagain

theorem isSubmission_of_mem_pollCalls {job : JobId} {polls : Nat} {s : σ} {call : Call}
    (h : call ∈ b.pollCalls job polls s) : call.isSubmission = false := by
  induction polls generalizing s with
  | zero => cases h
  | succ polls ih =>
    rw [pollCalls, List.mem_cons] at h
    rcases h with rfl | h
    · rfl
    · unfold callsAfter at h
      split at h
      · cases h
      · rw [List.mem_singleton.mp h]
        rfl
      · cases h
      · exact ih h
      · exact ih h

/-- What is asked while a job is waited for. -/
def waitCalls (w : b.Waiting) (job : JobId) (s : σ) : List Call :=
  .wait job ::
    match w with
    | .polling _ => b.pollCalls job maxPolls s
    | .own => []

theorem logs_wait (w : b.Waiting) (job : JobId) :
    Logs ((b.logged w).wait job) (b.wait job) (b.waitCalls w job) := by
  cases w with
  | polling h =>
    have hwait : b.wait job = pollForResult b.status b.result b.pause job maxPolls :=
      congrFun h job
    rw [hwait]
    exact (logs_noting (.wait job) (pure ())).bind fun _ => b.logs_pollForResult job maxPolls
  | own => exact logs_noting _ _

theorem isSubmission_of_mem_waitCalls {w : b.Waiting} {job : JobId} {s : σ} {call : Call}
    (h : call ∈ b.waitCalls w job s) : call.isSubmission = false := by
  unfold waitCalls at h
  rw [List.mem_cons] at h
  rcases h with rfl | h
  · rfl
  · cases w with
    | polling _ => exact b.isSubmission_of_mem_pollCalls h
    | own => cases h

end Backend

/-! ## Executions with a log -/

namespace Executor

variable {σ : Type}

/-- The executor on its backend with a log. -/
def logged (x : Executor σ) (w : x.backend.Waiting) : Executor (σ × List Call) :=
  ⟨x.backend.logged w, x.limits⟩

variable (x : Executor σ) (w : x.backend.Waiting)

theorem logs_isAvailable :
    Logs (x.logged w).backend.isAvailable x.backend.isAvailable fun _ => [.availability] := by
  refine (logs_noting .availability x.backend.availability).bind_silent fun answer => ?_
  cases answer with
  | error e => exact logs_pure _
  | ok a => exact logs_pure _

/-- What is asked once the submission of a circuit was answered. -/
def callsAfterSubmission : Answer JobId → σ → List Call
  | .error _, _ => []
  | .ok job, s => x.backend.waitCalls w job s

theorem isSubmission_of_mem_callsAfterSubmission {answer : Answer JobId} {s : σ} {call : Call}
    (h : call ∈ x.callsAfterSubmission w answer s) : call.isSubmission = false := by
  cases answer with
  | error e => cases h
  | ok job => exact x.backend.isSubmission_of_mem_waitCalls h

/-- What is asked for a circuit. -/
def circuitCalls (c : Circuit) (shots : Nat) (s : σ) : List Call :=
  .submit c shots ::
    x.callsAfterSubmission w (x.backend.submit c shots s).1 (x.backend.submit c shots s).2

theorem logs_runCircuit (c : Circuit) (shots : Nat) :
    Logs ((x.logged w).runCircuit c shots) (x.runCircuit c shots) (x.circuitCalls w c shots) := by
  refine Logs.bind (logs_noting (.submit c shots) (x.backend.submit c shots))
    (?_ : ∀ answer, Logs _ _ (x.callsAfterSubmission w answer))
  intro answer
  cases answer with
  | error e => exact logs_pure _
  | ok job => exact x.backend.logs_wait w job

/-- What is asked for a program, once the backend takes jobs. -/
def programCalls (p : List Block) (shots : Nat) (s : σ) : List Call :=
  match x.prepare p with
  | .ok (some c) => x.circuitCalls w c (x.limits.clampShots shots) s
  | .ok none | .error _ => []

theorem logs_run (p : List Block) (shots : Nat) :
    Logs ((x.logged w).run p shots) (x.run p shots) (x.programCalls w p shots) := by
  have hsame : (x.logged w).prepare p = x.prepare p := rfl
  unfold run programCalls
  rw [hsame]
  cases x.prepare p with
  | error e => exact logs_pure _
  | ok o =>
    cases o with
    | none => exact logs_pure _
    | some c =>
      refine (x.logs_runCircuit w c (x.limits.clampShots shots)).bind_silent fun answer => ?_
      cases answer with
      | error e => exact logs_pure _
      | ok r => exact logs_pure _

/-- What is asked once the backend said whether it takes jobs. -/
def callsAfterAvailability (p : List Block) (shots : Nat) : Bool → σ → List Call
  | true, s => x.programCalls w p shots s
  | false, _ => []

/-- **The questions of an execution.** -/
theorem logs_execute (p : List Block) (shots : Nat) :
    Logs ((x.logged w).execute p shots) (x.execute p shots) fun s =>
      .availability ::
        x.callsAfterAvailability w p shots (x.backend.isAvailable s).1 (x.backend.isAvailable s).2 := by
  refine Logs.bind (x.logs_isAvailable w)
    (?_ : ∀ takesJobs, Logs _ _ (x.callsAfterAvailability w p shots takesJobs))
  intro takesJobs
  cases takesJobs with
  | true => exact (x.logs_run w p shots).bind_silent fun r => logs_pure _
  | false => exact logs_pure _

variable {x w} {p : List Block} {shots : Nat} {s : σ}

/-- The questions that a log holds after an execution. -/
def calls (x : Executor σ) (w : x.backend.Waiting) (p : List Block) (shots : Nat) (s : σ) :
    List Call :=
  ((x.logged w).execute p shots (s, [])).2.2

theorem calls_eq :
    x.calls w p shots s =
      .availability ::
        x.callsAfterAvailability w p shots (x.backend.isAvailable s).1
          (x.backend.isAvailable s).2 := by
  rw [calls, x.logs_execute w p shots]
  rfl

theorem calls_of_some {c : Circuit} (h : x.TakesJobs s) (hp : x.prepare p = .ok (some c)) :
    x.calls w p shots s
      = .availability :: x.circuitCalls w c (x.limits.clampShots shots) (x.asked s) := by
  have hasked : (x.backend.isAvailable s).2 = x.asked s := by rw [isAvailable_eq]
  rw [calls_eq, isAvailable_iff.mpr h, hasked, callsAfterAvailability, programCalls, hp]

theorem calls_of_not_takesJobs (h : ¬ x.TakesJobs s) :
    x.calls w p shots s = [.availability] := by
  have hfalse : (x.backend.isAvailable s).1 = false := by
    simpa using mt isAvailable_iff.mp h
  rw [calls_eq, hfalse, callsAfterAvailability]

theorem calls_of_no_circuit (h : ∀ c, x.prepare p ≠ .ok (some c)) :
    x.calls w p shots s = [.availability] := by
  have hnone (t : σ) : x.programCalls w p shots t = [] := by
    unfold programCalls
    split
    · next c hc => exact absurd hc (h c)
    · rfl
    · rfl
  rw [calls_eq]
  cases (x.backend.isAvailable s).1 with
  | true => rw [callsAfterAvailability, hnone]
  | false => rfl

/-- **A program is asked about as a whole or not at all.** -/
theorem calls_cases (x : Executor σ) (w : x.backend.Waiting) (p : List Block) (shots : Nat)
    (s : σ) :
    (∃ c, x.TakesJobs s ∧ x.prepare p = .ok (some c) ∧ x.calls w p shots s
      = .availability :: x.circuitCalls w c (x.limits.clampShots shots) (x.asked s)) ∨
    ((¬ x.TakesJobs s ∨ ∀ c, x.prepare p ≠ .ok (some c)) ∧
      x.calls w p shots s = [.availability]) := by
  by_cases h : x.TakesJobs s
  case neg => exact Or.inr ⟨Or.inl h, calls_of_not_takesJobs h⟩
  by_cases hp : ∃ c, x.prepare p = .ok (some c)
  · obtain ⟨c, hc⟩ := hp
    exact Or.inl ⟨c, h, hc, calls_of_some h hc⟩
  · have hnone : ∀ c, x.prepare p ≠ .ok (some c) := fun c hc => hp ⟨c, hc⟩
    exact Or.inr ⟨Or.inr hnone, calls_of_no_circuit hnone⟩

theorem countP_isSubmission_circuitCalls (c : Circuit) (n : Nat) (t : σ) :
    (x.circuitCalls w c n t).countP Call.isSubmission = 1 := by
  have hlater : (x.callsAfterSubmission w (x.backend.submit c n t).1
      (x.backend.submit c n t).2).countP Call.isSubmission = 0 := by
    rw [List.countP_eq_zero]
    intro call hcall
    rw [x.isSubmission_of_mem_callsAfterSubmission w hcall]
    decide
  rw [circuitCalls, List.countP_cons_of_pos (by rfl), hlater]

theorem submit_mem_circuitCalls_iff {c d : Circuit} {m n : Nat} {t : σ} :
    .submit d m ∈ x.circuitCalls w c n t ↔ d = c ∧ m = n := by
  rw [circuitCalls, List.mem_cons, Call.submit.injEq]
  refine ⟨fun h => h.resolve_right fun hlater => ?_, Or.inl⟩
  have hno := x.isSubmission_of_mem_callsAfterSubmission w hlater
  cases hno

theorem countP_isSubmission_calls_le : (x.calls w p shots s).countP Call.isSubmission ≤ 1 := by
  rcases x.calls_cases w p shots s with ⟨c, -, -, hcalls⟩ | ⟨-, hcalls⟩
  · rw [hcalls, List.countP_cons_of_neg (by decide), countP_isSubmission_circuitCalls]
  · rw [hcalls]
    decide

/-- A submission is noted exactly of the circuit of a program that the backend gets to see. -/
theorem submit_mem_calls_iff {c : Circuit} {n : Nat} :
    .submit c n ∈ x.calls w p shots s ↔
      x.TakesJobs s ∧ x.prepare p = .ok (some c) ∧ n = x.limits.clampShots shots := by
  rcases x.calls_cases w p shots s with ⟨d, h, hd, hcalls⟩ | ⟨hno, hcalls⟩
  · rw [hcalls, List.mem_cons, submit_mem_circuitCalls_iff, hd]
    simp [h, eq_comm]
  · rw [hcalls]
    rcases hno with h | h
    · simp [h]
    · simp [h]

/-- **Nothing that is not within the limits is submitted.** The log changes neither the outcome of
an execution nor what becomes of the backend. At most one circuit is submitted. It is submitted
exactly if the backend takes jobs, the program is let pass and compiles to this circuit, with the
clamped number of shots, and it is within the limits. Where nothing is submitted the backend is
asked nothing at all but whether it takes jobs. -/
theorem execute_logged (x : Executor σ) (w : x.backend.Waiting) (p : List Block) (shots : Nat)
    (s : σ) :
    let calls := x.calls w p shots s
    (x.logged w).execute p shots (s, [])
      = ((x.execute p shots s).1, ((x.execute p shots s).2, calls)) ∧
    calls.countP Call.isSubmission ≤ 1 ∧
    (∀ c n, .submit c n ∈ calls ↔
      x.TakesJobs s ∧ validate x.limits p = .ok () ∧ compile p = .ok (some c) ∧
        n = min shots x.limits.maxShots) ∧
    (∀ c n, .submit c n ∈ calls → c.WithinLimits x.limits) ∧
    ((∀ c n, .submit c n ∉ calls) → calls = [.availability]) := by
  intro calls
  have hmem (c : Circuit) (n : Nat) : .submit c n ∈ calls ↔
      x.TakesJobs s ∧ validate x.limits p = .ok () ∧ compile p = .ok (some c) ∧
        n = min shots x.limits.maxShots := by
    rw [submit_mem_calls_iff, x.prepare_eq_ok_iff, and_assoc]
    rfl
  refine ⟨?_, ?_, hmem, ?_, ?_⟩
  · have hcalls : calls = ((x.logged w).execute p shots (s, [])).2.2 := rfl
    rw [hcalls, x.logs_execute w p shots]
  · exact countP_isSubmission_calls_le
  · intro c n h
    obtain ⟨-, hvalid, hc, -⟩ := (hmem c n).mp h
    exact withinLimits_of_compile hvalid hc
  · intro hno
    rcases x.calls_cases w p shots s with ⟨c, h, hc, -⟩ | ⟨-, hnone⟩
    · exact absurd (submit_mem_calls_iff.mpr ⟨h, hc, rfl⟩) (hno c _)
    · exact hnone

/-- A job that has failed: the backend is asked for it, and not for its result. -/
example :
    let backend := Backend.constant "stub" (.ok .always) (.ok "1") (.ok (.failed "boom"))
      (.error (.backend "none"))
    (⟨backend, ⟨1, 0, 3⟩⟩ : Executor Unit).calls (.polling rfl) [.createCircuit 1] 5 ()
      = [.availability, .submit (.withSize "scratch" 1 0) 3, .wait "1", .status "1"] := by
  rfl

end Executor

end QuantumBlocks
