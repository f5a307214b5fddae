import QuantumBlocks.Proofs.Execution.Outcome
import QuantumBlocks.Proofs.Program.Meaning
import QuantumBlocks.Proofs.Simulator.InBounds
import QuantumBlocks.Proofs.Simulator.Store

/-!
# Programs on a simulator

From the blocks of a program to the counts of its run: a program runs exactly if it is within the
limits, compiles to a circuit that the simulator admits, and measures something in the end.

* `run_onSimulator_iff` — which programs give counts, and which counts these are
* `execute_success_iff` — which programs succeed
* `execute_of_success` — what their outcomes consist of
* `execute_outcome` — the two together
-/

namespace QuantumBlocks

/-- An executor on a simulator with so many qubits. -/
def Executor.onSimulator (limits : Limits) (maxQubits : Nat) (name : Nat → JobId)
    (clock : Clock) (report : Nat → Circuit.Panic → String := Simulator.reportOf) :
    Executor Simulator :=
  ⟨Simulator.backend (.simulator maxQubits) name clock report, limits⟩

/-! ## The simulator as a backend -/

namespace Executor

variable {limits : Limits} {maxQubits : Nat} {name : Nat → JobId} {clock : Clock}
  {report : Nat → Circuit.Panic → String}

/-- A circuit runs on a simulator if it is admitted and its task ends well. -/
theorem runCircuit_onSimulator_eq_ok_iff {c : Circuit} {shots : Nat} {s : Simulator}
    {r : ExecutionResult} :
    ((onSimulator limits maxQubits name clock report).runCircuit c shots s).1 = .ok r ↔
      Simulator.checkJob s.capabilities c shots = .ok () ∧
        c.taskResult shots s.generator.next.1 clock.elapsedMs (report s.issued) = .ok r := by
  cases h : Simulator.checkJob s.capabilities c shots with
  | error e =>
    rw [runCircuit_of_error _ (Simulator.submit_of_error h)]
    simp
  | ok _ =>
    rw [runCircuit_of_ok _ (Simulator.submit_of_ok h)]
    simp only [true_and]
    rw [show (onSimulator limits maxQubits name clock report).backend.wait = Simulator.result
      from rfl, Simulator.result_store_nextJob]
    cases c.taskResult shots s.generator.next.1 clock.elapsedMs (report s.issued) with
    | error e => simp
    | ok r => simp

/-- **The counts of a program on a simulator** are those of the run of its circuit, with the seed
that the simulator draws next. -/
theorem run_onSimulator_iff {p : List Block} {shots : Nat} {s : Simulator} {counts : Counts} :
    ((onSimulator limits maxQubits name clock report).run p shots s).1 = .ok (some counts) ↔
      validate limits p = .ok () ∧ ∃ c, compile p = .ok (some c) ∧
        Simulator.checkJob s.capabilities c (limits.clampShots shots) = .ok () ∧
        c.numQubits ≤ 58 ∧
        c.run (limits.clampShots shots) s.generator.next.1 = .ok counts := by
  rw [run_eq_ok_some_iff]
  constructor
  · rintro ⟨c, hc, r, hr, rfl⟩
    obtain ⟨hvalid, hcompile⟩ := (prepare_eq_ok_iff _).mp hc
    obtain ⟨hcheck, hresult⟩ := runCircuit_onSimulator_eq_ok_iff.mp hr
    obtain ⟨hqubits, counts, hcounts, rfl⟩ := Circuit.taskResult_eq_ok_iff.mp hresult
    exact ⟨hvalid, c, hcompile, hcheck, hqubits, hcounts⟩
  · rintro ⟨hvalid, c, hcompile, hcheck, hqubits, hcounts⟩
    have hresult : c.taskResult (limits.clampShots shots) s.generator.next.1 clock.elapsedMs
        (report s.issued) = .ok ⟨counts, limits.clampShots shots, some clock.elapsedMs⟩ :=
      Circuit.taskResult_eq_ok_iff.mpr ⟨hqubits, counts, hcounts, rfl⟩
    exact ⟨c, (prepare_eq_ok_iff _).mpr ⟨hvalid, hcompile⟩, _,
      runCircuit_onSimulator_eq_ok_iff.mpr ⟨hcheck, hresult⟩, rfl⟩

/-- A simulator always takes jobs. -/
theorem execute_onSimulator (p : List Block) (shots : Nat) (s : Simulator) :
    ((onSimulator limits maxQubits name clock report).execute p shots s).1
      = outcome shots ((onSimulator limits maxQubits name clock report).run p shots s).1 := by
  rfl

/-! ## Outcomes on a simulator -/

variable {p : List Block} {shots : Nat} {generator : Generator}
  {jobs : List (JobId × StoredJob)} {issued : Nat}

theorem hasMeasurements_of_compile {c : Circuit} (h : compile p = .ok (some c)) :
    c.hasMeasurements = true ↔ .measureAll ∈ lastSegment p := by
  obtain ⟨-, n, -, rfl⟩ := compile_eq_some_iff.mp h
  exact hasMeasurements_segmentCircuit n (lastSegment p)

/-- **The programs that succeed on a simulator.** They are within the limits, they compile to a
circuit that the simulator admits, as it does the clamped number of shots, there is memory for its
state, and they measure after the last creation block. -/
theorem execute_success_iff :
    ((onSimulator limits maxQubits name clock report).execute p shots
        ⟨.simulator maxQubits, generator, jobs, issued⟩).1.success = true ↔
      validate limits p = .ok () ∧ ∃ c, compile p = .ok (some c) ∧ c.numQubits ≤ maxQubits ∧
        c.numQubits ≤ 58 ∧
        1 ≤ limits.clampShots shots ∧ limits.clampShots shots ≤ 100000 ∧
        .measureAll ∈ lastSegment p := by
  rw [execute_onSimulator, success_outcome_iff]
  constructor
  · rintro ⟨counts, hrun⟩
    obtain ⟨hvalid, c, hc, hcheck, hmemory, hcounts⟩ := run_onSimulator_iff.mp hrun
    obtain ⟨hqubits, hlow, hhigh⟩ := Simulator.checkJob_eq_ok_iff.mp hcheck
    exact ⟨hvalid, c, hc, hqubits, hmemory, hlow, hhigh,
      (hasMeasurements_of_compile hc).mp (Circuit.hasMeasurements_of_run hcounts)⟩
  · rintro ⟨hvalid, c, hc, hqubits, hmemory, hlow, hhigh, hm⟩
    obtain ⟨counts, hcounts, -⟩ := (reachable_of_compile hc).wellFormed.exists_run
      ((hasMeasurements_of_compile hc).mpr hm) (limits.clampShots shots) generator.next.1
    exact ⟨counts, run_onSimulator_iff.mpr ⟨hvalid, c, hc,
      Simulator.checkJob_eq_ok_iff.mpr ⟨hqubits, hlow, hhigh⟩, hmemory, hcounts⟩⟩

/-- **What a success on a simulator consists of.** There is one outcome for each shot that was
run, and its key has a word for each measurement of the last circuit. -/
theorem execute_of_success
    (h : ((onSimulator limits maxQubits name clock report).execute p shots
        ⟨.simulator maxQubits, generator, jobs, issued⟩).1.success = true) :
    ∃ (n : Nat) (counts : Counts), 1 ≤ n ∧ lastCreation? p = some (n : Int) ∧
      ((onSimulator limits maxQubits name clock report).execute p shots
          ⟨.simulator maxQubits, generator, jobs, issued⟩).1
        = .succeeded counts (counts.summary shots) ∧
      counts.total = limits.clampShots shots ∧
      ∀ entry ∈ counts.entries, IsKey (measurements (lastSegment p)) n entry.1 := by
  rw [execute_onSimulator] at h ⊢
  obtain ⟨counts, hrun, houtcome⟩ := outcome_of_success h
  obtain ⟨-, c, hc, -, -, hcounts⟩ := run_onSimulator_iff.mp hrun
  obtain ⟨htotal, hkeys⟩ := (reachable_of_compile hc).wellFormed.of_run hcounts
  obtain ⟨hplaced, n, hn, rfl⟩ := compile_eq_some_iff.mp hc
  have hpos := hplaced.one_le hn
  exact ⟨n, counts, by omega, hn, houtcome, htotal, fun entry he => (hkeys entry he).isKey⟩

/-- **From the blocks of a program to its outcome.** On a simulator of `maxQubits` qubits, in
whatever state earlier jobs left it, a program succeeds exactly if it is within the limits, it
compiles to a circuit of no more qubits, and of no more than the 58 whose state can be allocated,
the clamped number of shots is one that simulators admit, and it measures after its last creation
block. The counts of a success add up to that number, every key has a word for each of these
measurements and a bit for each qubit, and the summary gives shares of the shots that were asked
for. -/
theorem execute_outcome (limits : Limits) (maxQubits : Nat) (name : Nat → JobId) (clock : Clock)
    (report : Nat → Circuit.Panic → String) (generator : Generator)
    (jobs : List (JobId × StoredJob)) (issued : Nat) (p : List Block) (shots : Nat) :
    let outcome := ((onSimulator limits maxQubits name clock report).execute p shots
      ⟨.simulator maxQubits, generator, jobs, issued⟩).1
    (outcome.success = true ↔
      validate limits p = .ok () ∧ ∃ c, compile p = .ok (some c) ∧ c.numQubits ≤ maxQubits ∧
        c.numQubits ≤ 58 ∧
        1 ≤ min shots limits.maxShots ∧ min shots limits.maxShots ≤ 100000 ∧
        .measureAll ∈ lastSegment p) ∧
    (outcome.success = true →
      ∃ (n : Nat) (counts : Counts), lastCreation? p = some (n : Int) ∧
        outcome.counts = some counts ∧ outcome.resultText = some (counts.summary shots) ∧
        counts.total = min shots limits.maxShots ∧
        ∀ entry ∈ counts.entries, IsKey (measurements (lastSegment p)) n entry.1) := by
  intro outcome
  refine ⟨execute_success_iff, fun h => ?_⟩
  obtain ⟨n, counts, -, hn, houtcome, htotal, hkeys⟩ := execute_of_success h
  have hsucceeded : outcome = .succeeded counts (counts.summary shots) := houtcome
  rw [hsucceeded]
  exact ⟨n, counts, hn, rfl, rfl, htotal, hkeys⟩

/-- A pair of qubits measured twice, with more shots asked for than the limits allow. -/
theorem execute_outcome_measured_twice :
    let p := [Block.createCircuit 2, .gate (.h 0), .measureAll, .gate (.cx 0 1), .measureAll]
    ∃ outcome, ((onSimulator {} 20 toString {}).execute p 20000 ⟨.simulator 20, .ofSeed 7, [], 0⟩).1
        = outcome ∧
      outcome.success = true ∧
      ∃ counts, outcome.counts = some counts ∧ outcome.resultText = some (counts.summary 20000) ∧
        counts.total = 10000 ∧ ∀ entry ∈ counts.entries, IsKey 2 2 entry.1 := by
  intro p
  have hvalid : validate {} p = .ok () := rfl
  have hcompile : compile p = .ok (some (segmentCircuit 2 (lastSegment p))) := rfl
  obtain ⟨hiff, hspec⟩ := execute_outcome {} 20 toString {} Simulator.reportOf (.ofSeed 7)
    [] 0 p 20000
  have hsuccess := hiff.mpr ⟨hvalid, _, hcompile, by decide, by decide, by decide, by decide,
    by decide⟩
  obtain ⟨n, counts, hn, hcounts, htext, htotal, hkeys⟩ := hspec hsuccess
  obtain rfl : n = 2 := by
    have htwo : some (2 : Int) = some (n : Int) := hn
    rw [Option.some.injEq] at htwo
    omega
  exact ⟨_, rfl, hsuccess, counts, hcounts, htext, htotal, hkeys⟩

/-- Sixty qubits are within the limits and what the simulator admits, but there is no memory for
their state. -/
theorem execute_sixty_qubits :
    let limits : Limits := { maxQubits := 63 }
    let p := [Block.createCircuit 60, .measureAll]
    validate limits p = .ok () ∧
      (∃ c, compile p = .ok (some c) ∧ c.numQubits ≤ 63 ∧ .measureAll ∈ lastSegment p) ∧
      1 ≤ min 1 limits.maxShots ∧ min 1 limits.maxShots ≤ 100000 ∧
      ∀ name clock report generator jobs issued,
        ((onSimulator limits 63 name clock report).execute p 1
          ⟨.simulator 63, generator, jobs, issued⟩).1.success = false := by
  intro limits p
  have hvalid : validate limits p = .ok () := rfl
  have hcompile : compile p = .ok (some (segmentCircuit 60 (lastSegment p))) := rfl
  refine ⟨hvalid, ⟨_, hcompile, by decide, by decide⟩, by decide, by decide, ?_⟩
  intro name clock report generator jobs issued
  refine Bool.eq_false_iff.mpr fun hsuccess => ?_
  obtain ⟨-, c, hc, -, hmemory, -⟩ := execute_success_iff.mp hsuccess
  rw [hcompile, Except.ok.injEq, Option.some.injEq] at hc
  rw [← hc] at hmemory
  exact absurd hmemory (by decide)

end Executor

end QuantumBlocks
