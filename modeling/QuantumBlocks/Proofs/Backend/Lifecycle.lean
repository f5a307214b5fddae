import QuantumBlocks.Backend.Job
import Mathlib.Data.List.Infix

/-!
# The life of a job

A job waits, runs and comes to its end, in this order, and what moves it on are reports of its
status. The first report of an end is the last one that counts. The reports before it are taken as
they come, so that a job waits again if that is reported while it runs: its status goes backwards
exactly where the reports do.

* `after_of_isTerminal` — a job at its end stays as it is
* `after_of_find?_eq_some` — the first report of an end
* `lifecycle` — what any reports make of a new job
-/

namespace QuantumBlocks

/-- How far a job with a status has come: it waits, it runs, or it is at its end. -/
def JobStatus.rank : JobStatus → Nat
  | .queued => 0
  | .running => 1
  | .completed | .failed _ => 2

/-- A job with the first status has come no farther than one with the second. -/
def JobStatus.NotAfter (s t : JobStatus) : Prop := s.rank ≤ t.rank

instance : Trans JobStatus.NotAfter JobStatus.NotAfter JobStatus.NotAfter := ⟨Nat.le_trans⟩

instance (s t : JobStatus) : Decidable (s.NotAfter t) :=
  inferInstanceAs (Decidable (s.rank ≤ t.rank))

/-- No job comes farther than to its end. -/
theorem JobStatus.notAfter_of_isTerminal (s : JobStatus) {t : JobStatus}
    (h : t.isTerminal = true) : s.NotAfter t := by
  have hs : s.rank ≤ 2 := by
    cases s with
    | queued => decide
    | running => decide
    | completed => exact Nat.le_refl 2
    | failed _ => exact Nat.le_refl 2
  cases t with
  | queued => cases h
  | running => cases h
  | completed => exact hs
  | failed _ => exact hs

namespace Job

/-! ## Reports -/

/-- A status that is reported of a job, and when. -/
structure Report where
  status : JobStatus
  time : Text.Timestamp
  deriving DecidableEq, Repr

/-- Whether the end of a job is reported. -/
def Report.isFinal (r : Report) : Bool := r.status.isTerminal

/-- A job once it has taken a report. -/
def receive (job : Job) (r : Report) : Job := job.transition r.status r.time

/-- A job once it has taken some reports. -/
def after (job : Job) (reports : List Report) : Job := reports.foldl receive job

theorem after_cons (job : Job) (r : Report) (rest : List Report) :
    job.after (r :: rest) = (job.receive r).after rest := rfl

theorem after_append (job : Job) (reports later : List Report) :
    job.after (reports ++ later) = (job.after reports).after later :=
  List.foldl_append

/-- The statuses of a job: the one before all reports, and the one after each of them. -/
def statuses (job : Job) (reports : List Report) : List JobStatus :=
  reports.inits.map fun taken => (job.after taken).status

theorem statuses_cons (job : Job) (r : Report) (rest : List Report) :
    job.statuses (r :: rest) = job.status :: (job.receive r).statuses rest := by
  simp only [statuses, List.inits_cons, List.map_cons, List.map_map]
  rfl

variable {job : Job} {r : Report} {reports : List Report}

/-! ## One report -/

theorem receive_of_isTerminal (h : job.status.isTerminal = true) (r : Report) :
    job.receive r = job := transition_of_isTerminal h _ _

/-- Before its end a job takes whatever is reported. -/
theorem receive_of_not_isTerminal (h : job.status.isTerminal = false) (r : Report) :
    job.receive r = { job with
      status := r.status, finishedAt := if r.isFinal then some r.time else job.finishedAt } := by
  rw [receive, transition, h]
  rfl

theorem status_receive (h : job.status.isTerminal = false) (r : Report) :
    (job.receive r).status = r.status := by
  rw [receive_of_not_isTerminal h]

theorem finishedAt_receive (h : job.status.isTerminal = false) (r : Report) :
    (job.receive r).finishedAt = if r.isFinal then some r.time else job.finishedAt := by
  rw [receive_of_not_isTerminal h]

theorem isTerminal_receive (h : job.status.isTerminal = false) (r : Report) :
    (job.receive r).status.isTerminal = r.isFinal := by
  rw [status_receive h]
  rfl

/-! ## Any reports -/

/-- **A job at its end stays as it is.** -/
theorem after_of_isTerminal (h : job.status.isTerminal = true) (reports : List Report) :
    job.after reports = job := by
  induction reports with
  | nil => rfl
  | cons r rest ih => rw [after_cons, receive_of_isTerminal h, ih]

/-- **The first report of an end** is how a job ends, and when. -/
theorem after_of_find?_eq_some (h : job.status.isTerminal = false)
    (hr : reports.find? Report.isFinal = some r) :
    (job.after reports).status = r.status ∧ (job.after reports).finishedAt = some r.time := by
  induction reports generalizing job with
  | nil => cases hr
  | cons first rest ih =>
    rw [after_cons]
    cases hfirst : first.isFinal with
    | true =>
      obtain rfl : first = r := by simpa [hfirst] using hr
      rw [after_of_isTerminal ((isTerminal_receive h first).trans hfirst), status_receive h,
        finishedAt_receive h, hfirst]
      exact ⟨rfl, rfl⟩
    | false =>
      refine ih ((isTerminal_receive h first).trans hfirst) ?_
      simpa [hfirst] using hr

theorem after_of_find?_eq_none (h : job.status.isTerminal = false)
    (hnone : reports.find? Report.isFinal = none) :
    (job.after reports).status.isTerminal = false ∧
      (job.after reports).finishedAt = job.finishedAt := by
  induction reports generalizing job with
  | nil => exact ⟨h, rfl⟩
  | cons first rest ih =>
    rw [List.find?_cons] at hnone
    cases hfirst : first.isFinal with
    | true => simp [hfirst] at hnone
    | false =>
      obtain ⟨hstatus, hfinished⟩ :=
        ih ((isTerminal_receive h first).trans hfirst) (by simpa [hfirst] using hnone)
      rw [finishedAt_receive h, hfirst] at hfinished
      exact ⟨hstatus, hfinished⟩

/-! ## Forwards and backwards -/

/-- The statuses that are reported before the end. -/
def untilEnd (reports : List Report) : List JobStatus :=
  (reports.takeWhile fun r => !r.isFinal).map Report.status

theorem exists_statuses_eq_cons (job : Job) (reports : List Report) :
    ∃ later, job.statuses reports = job.status :: later := by
  cases reports with
  | nil => exact ⟨[], rfl⟩
  | cons r rest => exact ⟨_, job.statuses_cons r rest⟩

theorem pairwise_statuses_of_isTerminal (h : job.status.isTerminal = true)
    (reports : List Report) : (job.statuses reports).Pairwise JobStatus.NotAfter := by
  refine List.pairwise_of_forall_mem_list fun s _ t ht => ?_
  obtain ⟨taken, -, rfl⟩ := List.mem_map.mp ht
  rw [after_of_isTerminal h]
  exact JobStatus.notAfter_of_isTerminal s h

/-- **A job goes backwards where the reports before its end do**, and nowhere else. -/
theorem pairwise_statuses_iff (h : job.status.isTerminal = false) (reports : List Report) :
    (job.statuses reports).Pairwise JobStatus.NotAfter ↔
      (job.status :: untilEnd reports).Pairwise JobStatus.NotAfter := by
  -- It is enough to look at each report and the next one.
  rw [← List.isChain_iff_pairwise, ← List.isChain_iff_pairwise]
  induction reports generalizing job with
  | nil => rfl
  | cons first rest ih =>
    have hnext := isTerminal_receive h first
    obtain ⟨later, hlater⟩ := (job.receive first).exists_statuses_eq_cons rest
    rw [statuses_cons, hlater, List.isChain_cons_cons, ← hlater]
    cases hfirst : first.isFinal with
    | true =>
      have hend := hnext.trans hfirst
      have hforward := (pairwise_statuses_of_isTerminal hend rest).isChain
      have hstop : untilEnd (first :: rest) = [] := by simp [untilEnd, hfirst]
      rw [hstop]
      simp [hforward, JobStatus.notAfter_of_isTerminal job.status hend]
    | false =>
      have hgoOn : untilEnd (first :: rest) = first.status :: untilEnd rest := by
        simp [untilEnd, hfirst]
      rw [hgoOn, List.isChain_cons_cons, ih (hnext.trans hfirst), status_receive h]

/-! ## A new job -/

/-- **The life of a job.** Whatever is reported of a new job, in whatever order: once it is at its
end, nothing changes its record any more. It is at its end exactly if an end was reported, with the
status that the first report of one gave and the time of that report, and before that it has no such
time. Its status never goes back, to one of a job that has come less far, exactly if the statuses
that are reported before the end do not. -/
theorem lifecycle (id : JobId) (shots : Nat) (now : Text.Timestamp) (backend : Option String)
    (reports : List Report) :
    let job := create id shots now backend
    (∀ later, (job.after reports).status.isTerminal = true →
      job.after (reports ++ later) = job.after reports) ∧
    (∀ r, reports.find? Report.isFinal = some r →
      (job.after reports).status = r.status ∧ (job.after reports).finishedAt = some r.time) ∧
    (reports.find? Report.isFinal = none →
      (job.after reports).status.isTerminal = false ∧ (job.after reports).finishedAt = none) ∧
    ((job.statuses reports).Pairwise JobStatus.NotAfter ↔
      (untilEnd reports).Pairwise JobStatus.NotAfter) := by
  intro job
  have hnew : job.status.isTerminal = false := rfl
  refine ⟨fun later hend => ?_, fun r => after_of_find?_eq_some hnew,
    after_of_find?_eq_none hnew, ?_⟩
  · rw [after_append, after_of_isTerminal hend]
  · rw [pairwise_statuses_iff hnew, List.pairwise_cons]
    -- A new job waits, and nothing comes before that.
    exact and_iff_right fun s _ => Nat.zero_le s.rank

/-- A job that runs waits again once that is reported. -/
theorem waits_again_after_running :
    let now : Text.Timestamp := default
    (create "j" 1 now).statuses [⟨.running, now⟩, ⟨.queued, now⟩] = [.queued, .running, .queued] ∧
      ¬∀ id shots now backend reports,
        ((create id shots now backend).statuses reports).Pairwise JobStatus.NotAfter := by
  intro now
  refine ⟨rfl, fun hall => ?_⟩
  have hforward := hall "j" 1 now none [⟨.running, now⟩, ⟨.queued, now⟩]
  revert hforward
  decide

end Job

end QuantumBlocks
