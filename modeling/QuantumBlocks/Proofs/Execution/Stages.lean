import QuantumBlocks.Proofs.Execution.Outcome
import QuantumBlocks.Proofs.Simulator.Store
import Mathlib.Logic.Function.Iterate

/-!
# Executions in stages

An execution touches the simulator four times: it takes an identifier, draws a seed, stores the
finished job and collects it. Between any two of these accesses others may touch it too.

* `advance` — one access
* `Move` — what one access can do; `moves` says that it does nothing else
* `advance_alone` — a call that nobody disturbs is an execution as it stands
-/

namespace QuantumBlocks.Executor

/-! ## Calls -/

/-- What a run gives: counts, no counts, or an error. -/
abbrev Result := Except ExecutionError (Option Counts)

/-- A program that is to be executed, with what the clock shows meanwhile and what is reported if
its task panics. -/
structure Call where
  blocks : List Block
  shots : Nat
  clock : Clock := {}
  report : Circuit.Panic → String := Circuit.Panic.report 1

/-- What a call is about to do: it is refused without further ado, or it submits a circuit. -/
inductive Plan where
  | refuse (result : Result)
  | submit (c : Circuit)

/-- Whether a circuit is submitted and accepted. -/
def Plan.isSubmission : Plan → Bool
  | .refuse _ => false
  | .submit _ => true

theorem Plan.isSubmission_iff {plan : Plan} :
    plan.isSubmission = true ↔ ∃ c, plan = .submit c := by
  cases plan with
  | refuse r => simp [isSubmission]
  | submit c => simp [isSubmission]

namespace Call

variable (limits : Limits) (name : Nat → JobId) (capabilities : Capabilities) (call : Call)

/-- The executor that all calls share, at the time of this one. -/
def executor : Executor Simulator :=
  ⟨Simulator.backend capabilities name call.clock fun _ => call.report, limits⟩

/-- The circuit of a program that is within the limits. -/
def prepared : Except ProgramError (Option Circuit) := do
  validate limits call.blocks
  compile call.blocks

/-- The number of shots that are run. -/
def clamped : Nat := limits.clampShots call.shots

/-- What a call is about to do on a simulator with these capabilities. -/
def plan : Plan :=
  match call.prepared limits with
  | .error e => .refuse (.error (.program e))
  | .ok none => .refuse (.ok none)
  | .ok (some c) =>
    match Simulator.checkJob capabilities c (call.clamped limits) with
    | .error e => .refuse (.error (.backend e))
    | .ok () => .submit c

/-- The result of running a circuit with a seed. -/
def resultWith (c : Circuit) (seed : UInt64) : Result :=
  match c.taskResult (call.clamped limits) seed call.clock.elapsedMs call.report with
  | .ok result => .ok (some result.counts)
  | .error e => .error (.backend (.jobFailed e.message))

variable {limits name capabilities call}

theorem received_handOut_ofRun (id : JobId) (backend : String) (c : Circuit) (seed : UInt64) :
    received ((StoredJob.ofRun id backend call.clock c (call.clamped limits) seed
        call.report).handOut id)
      = call.resultWith limits c seed := by
  rw [StoredJob.handOut_ofRun]
  unfold resultWith
  cases c.taskResult (call.clamped limits) seed call.clock.elapsedMs call.report with
  | ok result => rfl
  | error e => rfl

theorem plan_ne_jobNotFound (id : JobId) :
    call.plan limits capabilities ≠ .refuse (.error (.backend (.jobNotFound id))) := by
  unfold plan
  split
  · nofun
  · nofun
  · next c _ =>
    split
    · next e he =>
      unfold Simulator.checkJob at he
      split at he
      · cases he
        nofun
      · split at he
        · cases he
          nofun
        · cases he
    · nofun

theorem resultWith_ne_jobNotFound (c : Circuit) (seed : UInt64) (id : JobId) :
    call.resultWith limits c seed ≠ .error (.backend (.jobNotFound id)) := by
  unfold resultWith
  cases c.taskResult (call.clamped limits) seed call.clock.elapsedMs call.report with
  | ok result => nofun
  | error e => nofun

end Call

/-! ## Stages -/

/-- How far a call has come. -/
inductive Stage where
  | entered
  | named (c : Circuit) (id : JobId)
  | seeded (c : Circuit) (id : JobId) (seed : UInt64)
  | stored (id : JobId)
  | done (result : Result)

namespace Stage

/-- The identifier of the job that a call is responsible for. -/
def id? : Stage → Option JobId
  | .named _ id | .seeded _ id _ | .stored id => some id
  | .entered | .done _ => none

/-- The seed that a call has just drawn. -/
def seed? : Stage → Option UInt64
  | .seeded _ _ seed => some seed
  | _ => none

/-- How many accesses a call still needs. -/
def remaining : Stage → Nat
  | .entered => 4
  | .named _ _ => 3
  | .seeded _ _ _ => 2
  | .stored _ => 1
  | .done _ => 0

theorem exists_done_of_remaining {stage : Stage} (h : stage.remaining = 0) :
    ∃ r, stage = .done r := by
  cases stage with
  | entered => cases h
  | named c id => cases h
  | seeded c id seed => cases h
  | stored id => cases h
  | done r => exact ⟨r, rfl⟩

end Stage

/-- The next access of a call to the simulator. -/
def Call.advance (limits : Limits) (name : Nat → JobId) (call : Call) :
    Stage → StateM Simulator Stage
  | .entered => fun s =>
    match call.plan limits s.capabilities with
    | .refuse r => (.done r, s)
    | .submit c => (.named c (s.issue name).1, (s.issue name).2)
  | .named c id => fun s => (.seeded c id s.drawSeed.1, s.drawSeed.2)
  | .seeded c id seed => fun s =>
    (.stored id,
      s.store id
        (.ofRun id s.capabilities.name call.clock c (call.clamped limits) seed call.report))
  | .stored id => fun s => (.done (received (Simulator.result id s).1), (Simulator.result id s).2)
  | .done r => fun s => (.done r, s)

/-! ## Moves -/

/-- What one access can do: the stage that the call comes to and the simulator that it leaves. -/
inductive Move (limits : Limits) (name : Nat → JobId) (call : Call) (s : Simulator) :
    Stage → Stage → Simulator → Prop where
  | refused {r : Result} (h : call.plan limits s.capabilities = .refuse r) :
      Move limits name call s .entered (.done r) s
  | issued {c : Circuit} (h : call.plan limits s.capabilities = .submit c) :
      Move limits name call s .entered (.named c (name s.issued))
        { s with issued := s.issued + 1 }
  | drawn {c : Circuit} {id : JobId} :
      Move limits name call s (.named c id) (.seeded c id s.generator.next.1)
        { s with generator := s.generator.next.2 }
  | stored {c : Circuit} {id : JobId} {seed : UInt64} :
      Move limits name call s (.seeded c id seed) (.stored id)
        (s.store id
          (.ofRun id s.capabilities.name call.clock c (call.clamped limits) seed call.report))
  | collected {id : JobId} {stored : StoredJob} (h : s.find? id = some stored) :
      Move limits name call s (.stored id) (.done (received (stored.handOut id))) (s.erase id)
  | missed {id : JobId} (h : s.find? id = none) :
      Move limits name call s (.stored id) (.done (.error (.backend (.jobNotFound id)))) s
  | rested {r : Result} : Move limits name call s (.done r) (.done r) s

/-- **An access does what `Move` says**, at whatever stage it comes. -/
theorem moves (limits : Limits) (name : Nat → JobId) (call : Call) (stage : Stage)
    (s : Simulator) :
    Move limits name call s stage (call.advance limits name stage s).1
      (call.advance limits name stage s).2 := by
  cases stage with
  | entered =>
    cases h : call.plan limits s.capabilities with
    | refuse r =>
      simp only [Call.advance, h]
      exact .refused h
    | submit c =>
      simp only [Call.advance, h]
      exact .issued h
  | named c id => exact .drawn
  | seeded c id seed => exact .stored
  | stored id =>
    simp only [Call.advance, Simulator.result]
    cases h : s.find? id with
    | none => exact .missed h
    | some stored => exact .collected h
  | done r => exact .rested

section Move

variable {limits : Limits} {name : Nat → JobId} {call : Call} {s t : Simulator} {from' to' : Stage}

theorem Move.capabilities_eq (m : Move limits name call s from' to' t) :
    t.capabilities = s.capabilities := by
  cases m <;> rfl

theorem Move.issued_le (m : Move limits name call s from' to' t) : s.issued ≤ t.issued := by
  cases m with
  | issued _ => exact Nat.le_succ s.issued
  | refused _ => exact Nat.le_refl _
  | drawn => exact Nat.le_refl _
  | stored => exact Nat.le_refl _
  | collected _ => exact Nat.le_refl _
  | missed _ => exact Nat.le_refl _
  | rested => exact Nat.le_refl _

/-- A call keeps the identifier that it has, gives it up, or takes the next one. -/
theorem Move.of_id? (m : Move limits name call s from' to' t) {id : JobId}
    (hid : to'.id? = some id) :
    from'.id? = some id ∨ id = name s.issued ∧ t.issued = s.issued + 1 := by
  cases m with
  | refused _ => cases hid
  | issued _ =>
    cases hid
    exact Or.inr ⟨rfl, rfl⟩
  | drawn => exact Or.inl hid
  | stored => exact Or.inl hid
  | collected _ => cases hid
  | missed _ => cases hid
  | rested => cases hid

/-- A call leaves alone the jobs that are not its own. -/
theorem Move.find?_eq (m : Move limits name call s from' to' t) {id : JobId}
    (hid : from'.id? ≠ some id) : t.find? id = s.find? id := by
  cases m with
  | refused _ => rfl
  | issued _ => rfl
  | drawn => rfl
  | stored => exact Simulator.find?_store_of_ne (fun h => hid (congrArg some h.symm)) s _
  | collected _ => exact Simulator.find?_erase_of_ne (fun h => hid (congrArg some h.symm)) s
  | missed _ => rfl
  | rested => rfl

/-- A call that comes to have a seed has just drawn it, and nothing else draws one. -/
theorem Move.seed?_cases (m : Move limits name call s from' to' t) :
    to'.seed? = none ∧ t.generator = s.generator ∨
      (∃ c id, from' = .named c id) ∧ to'.seed? = some s.generator.next.1 ∧
        t.generator = s.generator.next.2 := by
  cases m with
  | refused _ => exact Or.inl ⟨rfl, rfl⟩
  | issued _ => exact Or.inl ⟨rfl, rfl⟩
  | drawn => exact Or.inr ⟨⟨_, _, rfl⟩, rfl, rfl⟩
  | stored => exact Or.inl ⟨rfl, rfl⟩
  | collected _ => exact Or.inl ⟨rfl, rfl⟩
  | missed _ => exact Or.inl ⟨rfl, rfl⟩
  | rested => exact Or.inl ⟨rfl, rfl⟩

theorem Move.remaining_le (m : Move limits name call s from' to' t) :
    to'.remaining ≤ from'.remaining - 1 := by
  cases m <;> simp [Stage.remaining]

end Move

/-! ## Calls alone -/

section Alone

variable {limits : Limits} {name : Nat → JobId} {call : Call} {s : Simulator}

theorem prepare_executor {p : Except ProgramError (Option Circuit)}
    (h : call.prepared limits = p) :
    (call.executor limits name s.capabilities).prepare call.blocks = p := h

theorem run_of_refuse {r : Result} (h : call.plan limits s.capabilities = .refuse r) :
    (call.executor limits name s.capabilities).run call.blocks call.shots s = (r, s) := by
  unfold Call.plan at h
  split at h
  · next e hp =>
    cases h
    exact run_of_error _ (prepare_executor hp) _ _
  · next hp =>
    cases h
    exact run_of_none _ (prepare_executor hp) _ _
  · next c hp =>
    split at h
    · next e hcheck =>
      cases h
      rw [run_of_some _ (prepare_executor hp),
        runCircuit_of_error _ (Simulator.submit_of_error hcheck)]
      rfl
    · cases h

theorem run_of_submit {c : Circuit} (h : call.plan limits s.capabilities = .submit c) :
    (call.executor limits name s.capabilities).run call.blocks call.shots s =
      let t := s.taken.store (name s.issued)
        (s.nextJob name call.clock c (call.clamped limits) call.report)
      (received (Simulator.result (name s.issued) t).1, (Simulator.result (name s.issued) t).2) := by
  unfold Call.plan at h
  split at h
  · cases h
  · cases h
  · next d hp =>
    split at h
    · cases h
    · next hcheck =>
      cases h
      rw [run_of_some _ (prepare_executor hp), runCircuit_of_ok _ (Simulator.submit_of_ok hcheck)]
      rfl

/-- A simulator always takes jobs. -/
theorem execute_executor :
    (call.executor limits name s.capabilities).execute call.blocks call.shots s =
      (outcome call.shots
          ((call.executor limits name s.capabilities).run call.blocks call.shots s).1,
        ((call.executor limits name s.capabilities).run call.blocks call.shots s).2) := rfl

theorem execute_of_refuse {r : Result} (h : call.plan limits s.capabilities = .refuse r) :
    ((call.executor limits name s.capabilities).execute call.blocks call.shots s).1
      = outcome call.shots r := by
  rw [execute_executor, run_of_refuse h]

theorem execute_of_submit {c : Circuit} (h : call.plan limits s.capabilities = .submit c) :
    ((call.executor limits name s.capabilities).execute call.blocks call.shots s).1
      = outcome call.shots (call.resultWith limits c s.generator.next.1) := by
  rw [execute_executor, run_of_submit h]
  simp only [Simulator.result, Simulator.find?_store]
  exact congrArg (outcome call.shots) (Call.received_handOut_ofRun _ _ _ _)

/-- **A call that nobody disturbs is an execution as it stands**: its four accesses do to the
simulator what the execution does, and what they give is its outcome. -/
theorem advance_alone (limits : Limits) (name : Nat → JobId) (call : Call) (s : Simulator) :
    let x := call.executor limits name s.capabilities
    (fun state => call.advance limits name state.1 state.2)^[4] (.entered, s)
        = (.done (x.run call.blocks call.shots s).1, (x.run call.blocks call.shots s).2) ∧
      x.execute call.blocks call.shots s
        = (outcome call.shots (x.run call.blocks call.shots s).1,
          (x.run call.blocks call.shots s).2) := by
  intro x
  refine ⟨?_, execute_executor⟩
  cases h : call.plan limits s.capabilities with
  | refuse r =>
    have hfirst : call.advance limits name .entered s = (.done r, s) := by
      simp only [Call.advance, h]
    rw [run_of_refuse h]
    simp only [Function.iterate_succ_apply, hfirst]
    rfl
  | submit c =>
    have hfirst : call.advance limits name .entered s
        = (.named c (name s.issued), (s.issue name).2) := by
      simp only [Call.advance, h]
      rfl
    rw [run_of_submit h]
    simp only [Function.iterate_succ_apply, hfirst]
    rfl

end Alone

end QuantumBlocks.Executor
