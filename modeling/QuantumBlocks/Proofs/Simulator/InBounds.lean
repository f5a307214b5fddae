import QuantumBlocks.Proofs.Counts.Total
import QuantumBlocks.Proofs.Simulator.Amplitudes
import QuantumBlocks.Proofs.Simulator.Reading
import QuantumBlocks.Simulator.Store

/-!
# Runs stay in bounds

A run looks up amplitudes, bits of the record, operands and parts of the record, and each of these
accesses is checked: one out of bounds would end the run. In a well-formed circuit there is none.

* `Shot.Fits` — what every shot keeps on its way: `2 ^ n` amplitudes and a bit for each classical
  bit
* `StaysInBounds` — every state that a shot passes is there and fits
* `WellFormed.exists_run` — a run of a circuit that measures anything counts as many readings as
  shots
* `checkState_eq_ok_iff` — the states for which there is memory
* `taskResult_eq_ok_iff` — the tasks that end well
* `taskResult_of_reachable` — the same of every circuit that was built step by step

A step lemma comes before each run lemma, which follows from it by `exists_foldlM_of_step`.
-/

namespace QuantumBlocks.Circuit

open Number

/-- The bits that an instruction reads into are among those that it names. -/
theorem targets_lt {i : Instruction} {m : Nat} (h : ∀ b ∈ i.clbits, b < m) :
    ∀ target ∈ i.targets, target.2 < m :=
  fun target ht => h target.2 (List.of_mem_zip (a := target.1) ht).2

/-! ## Sampled shots -/

theorem exists_readSample {r : Record} {i : Instruction} (sample : Nat)
    (h : ∀ b ∈ i.clbits, b < r.size) :
    ∃ s, readSample sample r i = some s ∧ s.size = r.size := by
  -- The invariant of the loop is the size of the record.
  refine exists_foldlM_of_step (P := fun s : Record => s.size = r.size) ?_ rfl
  intro s hs target ht
  have hlt : target.2 < s.size := by
    rw [hs]
    exact targets_lt h target ht
  obtain ⟨t, ht, hsize⟩ := Record.exists_write hlt (hasWordBit target.1 sample)
  exact ⟨t, ht, hsize.trans hs⟩

/-- Instructions that fit read a sample into a record of the circuit. -/
theorem exists_readSamples {n m : Nat} {is : List Instruction} (his : ∀ i ∈ is, i.Fits n m)
    (sample : Nat) :
    ∃ r, is.foldlM (readSample sample) (.blank m) = some r ∧ r.size = m := by
  refine exists_foldlM_of_step (P := fun r : Record => r.size = m) ?_ (Record.size_blank m)
  intro r hr i hi
  obtain ⟨s, hs, hsize⟩ := exists_readSample (r := r) (i := i) sample
    (by rw [hr]; exact (his i hi).clbits_lt)
  exact ⟨s, hs, hsize.trans hr⟩

/-! ## Replayed shots -/

/-- A shot of a circuit with `n` qubits and `m` classical bits. -/
structure Shot.Fits (n m : Nat) (shot : Shot) : Prop where
  state : shot.state.OfQubits n
  size_record : shot.record.size = m

theorem Shot.Fits.exists_read {n m : Nat} {shot : Shot} (h : shot.Fits n m) {target : Nat × Nat}
    (ht : target.2 < m) : ∃ t, shot.read target = some t ∧ t.Fits n m := by
  have hlt : target.2 < shot.record.size := by
    rw [h.size_record]
    exact ht
  obtain ⟨r, hr, hsize⟩ := Record.exists_write hlt
    (shot.state.measure target.1 shot.generator.nextUniform.1).1
  refine ⟨⟨(shot.state.measure target.1 shot.generator.nextUniform.1).2, r,
    shot.generator.nextUniform.2⟩, ?_, h.state.measure _ _, hsize.trans h.size_record⟩
  simp only [Shot.read, hr]
  rfl

theorem Shot.Fits.exists_reads {n m : Nat} {shot : Shot} (h : shot.Fits n m)
    {targets : List (Nat × Nat)} (ht : ∀ target ∈ targets, target.2 < m) :
    ∃ t, targets.foldlM Shot.read shot = some t ∧ t.Fits n m :=
  exists_foldlM_of_step (fun _ hs target hm => hs.exists_read (ht target hm)) h

/-- One instruction that fits leads from a fitting shot to a fitting shot. -/
theorem Shot.Fits.exists_step {n m : Nat} {shot : Shot} (h : shot.Fits n m) {i : Instruction}
    (hi : i.Fits n m) : ∃ t, shot.step i = some t ∧ t.Fits n m := by
  unfold Shot.step
  cases hk : i.kind with
  | measure => exact h.exists_reads (targets_lt hi.clbits_lt)
  | gate g =>
    obtain ⟨s, hs, hq⟩ := Statevector.exists_apply_of_fits h.state hi
    exact ⟨{ shot with state := s }, by simp [hs], hq, h.size_record⟩

theorem Shot.Fits.exists_steps {n m : Nat} {shot : Shot} (h : shot.Fits n m)
    {is : List Instruction} (his : ∀ i ∈ is, i.Fits n m) :
    ∃ t, is.foldlM Shot.step shot = some t ∧ t.Fits n m :=
  exists_foldlM_of_step (fun _ hs i hi => hs.exists_step (his i hi)) h

theorem Shot.fits_start {n : Nat} {s : Statevector} (hs : s.OfQubits n) (m : Nat) (g : Generator) :
    (Shot.mk s (.blank m) g).Fits n m :=
  ⟨hs, Record.size_blank m⟩

/-! ## Single shots -/

/-- What is known of the outcome of a shot: it is a reading of the registers. -/
def GivesReading (c : Circuit) (shot : Generator → Option (String × Generator)) : Prop :=
  ∀ g, ∃ key next, shot g = some (key, next) ∧ IsReading c.registers key

theorem WellFormed.fits_leadingGates {c : Circuit} (h : c.WellFormed) :
    ∀ i ∈ c.leadingGates, i.Fits c.numQubits c.numClbits :=
  fun i hi => h.fits i ((List.takeWhile_sublist _).subset hi)

theorem WellFormed.fits_measuredTail {c : Circuit} (h : c.WellFormed) :
    ∀ i ∈ c.measuredTail, i.Fits c.numQubits c.numClbits :=
  fun i hi => h.fits i ((List.dropWhile_sublist _).subset hi)

theorem WellFormed.exists_text {c : Circuit} (h : c.WellFormed) {r : Record}
    (hr : r.size = c.numClbits) : ∃ key, r.text? c.registers = some key ∧
      IsReading c.registers key :=
  Record.exists_text (h.sum_registers.trans hr.symm)

theorem WellFormed.givesReading_sampledShot {c : Circuit} (h : c.WellFormed) (s : Statevector) :
    c.GivesReading (c.sampledShot s) := by
  intro g
  obtain ⟨r, hr, hsize⟩ := exists_readSamples h.fits_measuredTail (s.sample g.nextUniform.1)
  obtain ⟨key, hkey, hreading⟩ := h.exists_text hsize
  refine ⟨key, g.nextUniform.2, ?_, hreading⟩
  simp only [sampledShot, hr]
  simp [hkey]

theorem WellFormed.givesReading_replayedShot {c : Circuit} (h : c.WellFormed) {s : Statevector}
    (hs : s.OfQubits c.numQubits) : c.GivesReading (c.replayedShot s) := by
  intro g
  obtain ⟨shot, hshot, hfits⟩ :=
    (Shot.fits_start hs c.numClbits g).exists_steps h.fits_measuredTail
  obtain ⟨key, hkey, hreading⟩ := h.exists_text hfits.size_record
  refine ⟨key, shot.generator, ?_, hreading⟩
  simp only [replayedShot, hshot]
  simp [hkey]

/-! ## All shots -/

/-- Every shot is counted once, and nothing but readings is counted. -/
theorem exists_countShots {c : Circuit} {shot : Generator → Option (String × Generator)}
    (hshot : c.GivesReading shot) (shots : Nat) {counts : Counts}
    (hcounts : ∀ entry ∈ counts.entries, IsReading c.registers entry.1) (g : Generator) :
    ∃ out, countShots shot shots counts g = some out ∧ out.total = counts.total + shots ∧
      ∀ entry ∈ out.entries, IsReading c.registers entry.1 := by
  induction shots generalizing counts g with
  | zero => exact ⟨counts, rfl, rfl, hcounts⟩
  | succ shots ih =>
    obtain ⟨key, next, hkey, hreading⟩ := hshot g
    obtain ⟨out, hout, htotal, hall⟩ := ih (Counts.forall_insert (n := 1) hcounts hreading) next
    refine ⟨out, ?_, ?_, hall⟩
    · rw [countShots, hkey]
      exact hout
    · rw [htotal, Counts.total_insert]
      omega

theorem WellFormed.exists_countReadings {c : Circuit} (h : c.WellFormed) (shots : Nat)
    (seed : UInt64) :
    ∃ counts, c.countReadings shots seed = some counts ∧ counts.total = shots ∧
      ∀ entry ∈ counts.entries, IsReading c.registers entry.1 := by
  obtain ⟨s, hs, hq⟩ := Statevector.exists_applyAll_of_fits
    (Statevector.ofQubits_init c.numQubits) h.fits_leadingGates
  -- Both ways to run a shot give a reading, so it does not matter which one is taken.
  have hshot : c.GivesReading
      (if c.measurementsAreTerminal then c.sampledShot s else c.replayedShot s) := by
    split
    · exact h.givesReading_sampledShot s
    · exact h.givesReading_replayedShot hq
  have hempty : ∀ entry ∈ Counts.empty.entries, IsReading c.registers entry.1 := by
    simp [Counts.empty]
  obtain ⟨counts, hcounts, htotal, hall⟩ := exists_countShots hshot shots hempty (.ofSeed seed)
  refine ⟨counts, ?_, by rw [htotal, Counts.total_empty, Nat.zero_add], hall⟩
  simp only [countReadings, hs]
  exact hcounts

/-- **A well-formed circuit that measures anything runs to its end.** The readings of all its
registers are counted, one for each shot. -/
theorem WellFormed.exists_run {c : Circuit} (h : c.WellFormed) (hm : c.hasMeasurements = true)
    (shots : Nat) (seed : UInt64) :
    ∃ counts, c.run shots seed = .ok counts ∧ counts.total = shots ∧
      ∀ entry ∈ counts.entries, IsReading c.registers entry.1 := by
  obtain ⟨counts, hcounts, htotal, hall⟩ := h.exists_countReadings shots seed
  refine ⟨counts, ?_, htotal, hall⟩
  rw [run, if_pos hm, hcounts]

theorem run_of_no_measurements {c : Circuit} (hm : c.hasMeasurements = false) (shots : Nat)
    (seed : UInt64) : c.run shots seed = .error .noMeasurements := by
  rw [run, hm]
  rfl

/-- Counts come of circuits that measure. -/
theorem hasMeasurements_of_run {c : Circuit} {shots : Nat} {seed : UInt64} {counts : Counts}
    (h : c.run shots seed = .ok counts) : c.hasMeasurements = true := by
  by_contra hm
  rw [run_of_no_measurements (Bool.eq_false_iff.mpr hm)] at h
  cases h

/-- What holds of the run of a well-formed circuit holds of all counts that come of it. -/
theorem WellFormed.of_run {c : Circuit} (h : c.WellFormed) {shots : Nat} {seed : UInt64}
    {counts : Counts} (hrun : c.run shots seed = .ok counts) :
    counts.total = shots ∧ ∀ entry ∈ counts.entries, IsReading c.registers entry.1 := by
  obtain ⟨others, hothers, hall⟩ := h.exists_run (hasMeasurements_of_run hrun) shots seed
  rw [hrun, Except.ok.injEq] at hothers
  rw [hothers]
  exact hall

/-- What comes of a circuit, if anything does, are the counts of its run. -/
theorem resultOf_eq_ok_iff {c : Circuit} {shots : Nat} {seed : UInt64} {elapsedMs : Nat}
    {report : Panic → String} {r : ExecutionResult} :
    c.resultOf shots seed elapsedMs report = .ok r ↔
      ∃ counts, c.run shots seed = .ok counts ∧ r = ⟨counts, shots, some elapsedMs⟩ := by
  unfold resultOf
  cases c.run shots seed with
  | error e => simp
  | ok counts => simp [eq_comm]

/-! ## Memory -/

/-- **The states that can be allocated** have no more than 58 qubits. -/
theorem checkState_eq_ok_iff {n : Nat} : checkState n = .ok () ↔ n ≤ 58 := by
  have hbytes : 16 * 1 <<< n = 2 ^ (4 + n) := by
    rw [Nat.one_shiftLeft, Nat.pow_add]
  have hmost : maxAllocation < 16 * 1 <<< n ↔ 59 ≤ n := by
    rw [hbytes, show (59 ≤ n) ↔ 63 ≤ 4 + n by omega,
      ← Nat.pow_le_pow_iff_right (by decide : 1 < 2)]
    exact Nat.lt_iff_add_one_le
  unfold checkState
  split
  · simp only [reduceCtorEq, false_iff]
    omega
  · split
    · next h =>
      have hn := hmost.mp h
      simp only [reduceCtorEq, false_iff]
      omega
    · next h =>
      have hn := mt hmost.mpr h
      simp only [true_iff]
      omega

theorem checkMemory_eq_ok_iff {c : Circuit} :
    c.checkMemory = .ok () ↔ (c.hasMeasurements = true → c.numQubits ≤ 58) := by
  unfold checkMemory
  split
  · next h => simp only [checkState_eq_ok_iff, h, true_implies]
  · next h => simp [h]

/-- A task that gets the memory for its state runs the circuit. -/
theorem taskResult_of_le {c : Circuit} (h : c.numQubits ≤ 58) (shots : Nat) (seed : UInt64)
    (elapsedMs : Nat) (report : Panic → String) :
    c.taskResult shots seed elapsedMs report = c.resultOf shots seed elapsedMs report := by
  rw [taskResult, checkMemory_eq_ok_iff.mpr fun _ => h]

/-- A task ends well if it gets the memory for its state and the run gives counts. -/
theorem taskResult_eq_ok_iff {c : Circuit} {shots : Nat} {seed : UInt64} {elapsedMs : Nat}
    {report : Panic → String} {r : ExecutionResult} :
    c.taskResult shots seed elapsedMs report = .ok r ↔ c.numQubits ≤ 58 ∧
      ∃ counts, c.run shots seed = .ok counts ∧ r = ⟨counts, shots, some elapsedMs⟩ := by
  have hmemory := checkMemory_eq_ok_iff (c := c)
  unfold taskResult
  cases h : c.checkMemory with
  | ok _ =>
    rw [resultOf_eq_ok_iff]
    constructor
    · rintro ⟨counts, hcounts, hr⟩
      exact ⟨hmemory.mp h (hasMeasurements_of_run hcounts), counts, hcounts, hr⟩
    · exact fun hr => hr.2
  | error e =>
    simp only [reduceCtorEq, false_iff]
    rintro ⟨hqubits, -⟩
    rw [hmemory.mpr fun _ => hqubits] at h
    cases h

/-! ## Reachable circuits -/

/-- No access of a run is out of bounds. Before the first measurement and after every instruction
and every single reading from there on, the state has an amplitude for each value of the qubits
and the record a bit for each classical bit; a sample is the index of an amplitude; and a record
has all the parts that its registers name. -/
structure StaysInBounds (c : Circuit) : Prop where
  gates : ∀ front, front <+: c.leadingGates →
    ∃ s, (Statevector.init c.numQubits).applyAll front = some s ∧ s.OfQubits c.numQubits
  samples : ∀ s, (Statevector.init c.numQubits).applyAll c.leadingGates = some s →
    ∀ random, s.sample random < 2 ^ c.numQubits
  sampledShots : ∀ sample front, front <+: c.measuredTail →
    ∃ r, front.foldlM (readSample sample) (.blank c.numClbits) = some r ∧ r.size = c.numClbits
  replayedShots : ∀ s, (Statevector.init c.numQubits).applyAll c.leadingGates = some s →
    ∀ g front, front <+: c.measuredTail →
      ∃ shot, front.foldlM Shot.step ⟨s, .blank c.numClbits, g⟩ = some shot ∧
        shot.Fits c.numQubits c.numClbits
  reads : ∀ shot : Shot, shot.Fits c.numQubits c.numClbits → ∀ i ∈ c.instructions,
    ∀ front, front <+: i.targets →
      ∃ next, front.foldlM Shot.read shot = some next ∧ next.Fits c.numQubits c.numClbits
  texts : ∀ r : Record, r.size = c.numClbits →
    ∃ key, r.text? c.registers = some key ∧ IsReading c.registers key

theorem WellFormed.ofQubits_of_applyAll {c : Circuit} (h : c.WellFormed) {s : Statevector}
    (hs : (Statevector.init c.numQubits).applyAll c.leadingGates = some s) :
    s.OfQubits c.numQubits := by
  obtain ⟨t, ht, hq⟩ := Statevector.exists_applyAll_of_fits
    (Statevector.ofQubits_init c.numQubits) h.fits_leadingGates
  rw [hs, Option.some.injEq] at ht
  rw [ht]
  exact hq

theorem WellFormed.staysInBounds {c : Circuit} (h : c.WellFormed) : c.StaysInBounds where
  gates := fun _ hfront =>
    Statevector.exists_applyAll_of_fits (Statevector.ofQubits_init c.numQubits)
      fun i hi => h.fits_leadingGates i (hfront.subset hi)
  samples := fun _ hs => Statevector.sample_lt (h.ofQubits_of_applyAll hs)
  sampledShots := fun sample _ hfront =>
    exists_readSamples (fun i hi => h.fits_measuredTail i (hfront.subset hi)) sample
  replayedShots := fun _ hs g _ hfront =>
    (Shot.fits_start (h.ofQubits_of_applyAll hs) c.numClbits g).exists_steps
      fun i hi => h.fits_measuredTail i (hfront.subset hi)
  reads := fun _ hshot i hi _ hfront =>
    hshot.exists_reads fun target ht =>
      targets_lt (h.fits i hi).clbits_lt target (hfront.subset ht)
  texts := fun _ hr => h.exists_text hr

/-- The number of classical bits as a counter of 32 bits has it, register by register. -/
def countedBits (c : Circuit) : Nat :=
  c.registers.foldl (fun bits size => (bits + size) % Nat.pow 2 32) 0

theorem foldl_add_mod {sizes : List Nat} {bound start : Nat} (h : start + sizes.sum < bound) :
    sizes.foldl (fun bits size => (bits + size) % bound) start = start + sizes.sum := by
  induction sizes generalizing start with
  | nil => rfl
  | cons size rest ih =>
    rw [List.sum_cons, ← Nat.add_assoc] at h
    rw [List.foldl_cons, Nat.mod_eq_of_lt (by omega), ih h, List.sum_cons, Nat.add_assoc]

/-- The counter is right as long as it has room. -/
theorem WellFormed.countedBits_eq {c : Circuit} (h : c.WellFormed)
    (hbits : c.numClbits ≤ maxUnsigned32) : c.countedBits = c.numClbits := by
  have hroom : 0 + c.registers.sum < Nat.pow 2 32 := by
    rw [Nat.zero_add, h.sum_registers]
    exact Nat.lt_of_le_of_lt hbits (by decide)
  rw [countedBits, foldl_add_mod hroom, Nat.zero_add, h.sum_registers]

/-- **No run of a circuit that operations lead to goes out of bounds**, if its state can be
allocated and its classical bits can be counted. It counts the readings of all registers, one for
each shot, if the circuit measures anything, and is refused if not. -/
theorem taskResult_of_reachable {c : Circuit} (h : Reachable c) (hqubits : c.numQubits ≤ 58)
    (hbits : c.numClbits ≤ maxUnsigned32) (shots : Nat) (seed : UInt64) (elapsedMs : Nat)
    (report : Panic → String) :
    c.countedBits = c.numClbits ∧ c.StaysInBounds ∧
    (c.hasMeasurements = true →
      ∃ counts, c.taskResult shots seed elapsedMs report = .ok ⟨counts, shots, some elapsedMs⟩ ∧
        counts.total = shots ∧ ∀ entry ∈ counts.entries, IsReading c.registers entry.1) ∧
    (c.hasMeasurements = false →
      c.taskResult shots seed elapsedMs report
        = .error (.invalidCircuit "circuit contains no measurements")) := by
  rw [taskResult_of_le hqubits]
  refine ⟨h.wellFormed.countedBits_eq hbits, h.wellFormed.staysInBounds, ?_, ?_⟩
  · intro hm
    obtain ⟨counts, hcounts, htotal, hall⟩ := h.wellFormed.exists_run hm shots seed
    exact ⟨counts, resultOf_eq_ok_iff.mpr ⟨counts, hcounts, rfl⟩, htotal, hall⟩
  · intro hm
    rw [resultOf, run_of_no_measurements hm]
    rfl

/-- A circuit with a refused operation, and a gate between two measurements into registers of
different sizes. -/
theorem taskResult_measure_between_gates :
    let c := [Operation.applyGate .h [0], .applyGate .cx [0, 0], .measureAll, .applyGate .cx [0, 1],
      .measure 1 0].foldl perform (withSize "pair" 2 1)
    Reachable c ∧ c.numQubits ≤ 58 ∧ c.numClbits ≤ maxUnsigned32 ∧ c.registers = [1, 2] ∧
      ∃ counts, c.taskResult 5 7 0 = .ok ⟨counts, 5, some 0⟩ ∧ counts.total = 5 ∧
        ∀ entry ∈ counts.entries, IsReading [1, 2] entry.1 := by
  intro c
  have hreach : Reachable c := (Reachable.create "pair" 2 1).foldl _
  have hqubits : c.numQubits ≤ 58 := by decide
  have hbits : c.numClbits ≤ maxUnsigned32 := by decide
  obtain ⟨-, -, hruns, -⟩ := taskResult_of_reachable hreach hqubits hbits 5 7 0 (Panic.report 1)
  exact ⟨hreach, hqubits, hbits, by decide, hruns (by decide)⟩

/-- Sixty qubits have more amplitudes than can be allocated, so every run of them panics; and a
counter of 32 bits that is full starts again, so that a bit which was measured is none of those
that it counts. -/
theorem taskResult_sixty_qubits :
    let c := (withSize "wide" 60 0).perform .measureAll
    let d := [Operation.measure 0 0, .addRegister 1].foldl perform
      (withSize "full" 1 maxUnsigned32)
    (Reachable c ∧ c.numQubits ≤ 63 ∧ c.hasMeasurements = true ∧
      ∀ shots seed elapsedMs report, c.taskResult shots seed elapsedMs report
        = .error (.backend ("simulation task failed: " ++ report .capacityOverflow))) ∧
    Reachable d ∧ d.numQubits ≤ 63 ∧ d.countedBits = 0 ∧ .measure 0 0 ∈ d.instructions := by
  intro c d
  have hc : Reachable c := (Reachable.create "wide" 60 0).perform .measureAll
  have hd : Reachable d := (Reachable.create "full" 1 maxUnsigned32).foldl _
  have hmemory : c.checkMemory = .error (.panicked .capacityOverflow) := by decide
  refine ⟨⟨hc, by decide, by decide, fun shots seed elapsedMs report => ?_⟩, hd, by decide,
    by decide, by decide⟩
  rw [taskResult, hmemory]
  rfl

end QuantumBlocks.Circuit
