import QuantumBlocks.Proofs.Number.Digits
import QuantumBlocks.Proofs.Simulator.Store

/-!
# Jobs from submission to collection

What a simulator answers when it is called again and again, with circuits and with identifiers of
any kind. A job has come to its end when it is stored, it stays as it is until somebody collects
its result, and then it is gone.

* `Served` — what one call can do; `served` says that it does nothing else
* `settled_after`, `find?_after` — what every history of calls keeps, each from its step lemma
* `replies_of_history` — what all calls on a simulator are answered
-/

namespace QuantumBlocks

/-! ## Questions and replies -/

/-- What a backend can be asked to do about its jobs. -/
inductive Question where
  | submit (c : Circuit) (shots : Nat)
  | status (id : JobId)
  | result (id : JobId)
  | wait (id : JobId)

/-- What a backend answers. -/
inductive Reply where
  | submitted (answer : Answer JobId)
  | status (answer : Answer JobStatus)
  | result (answer : Answer ExecutionResult)

namespace Question

/-- The job that is asked about. -/
def job? : Question → Option JobId
  | .submit _ _ => none
  | .status id | .result id | .wait id => some id

/-- The job whose result is asked for. -/
def collected? : Question → Option JobId
  | .submit _ _ | .status _ => none
  | .result id | .wait id => some id

theorem job?_of_collected? {q : Question} {id : JobId} (h : q.collected? = some id) :
    q.job? = some id := by
  cases q with
  | submit c shots => cases h
  | status id => cases h
  | result id => exact h
  | wait id => exact h

end Question

namespace Reply

/-- The error that is answered, if it is one. -/
def error? : Reply → Option BackendError
  | .submitted (.error e) | .status (.error e) | .result (.error e) => some e
  | _ => none

/-- No job is said to wait or to run, and none to have come to its end without a result. -/
def IsDecided (r : Reply) : Prop :=
  r ≠ .status (.ok .queued) ∧ r ≠ .status (.ok .running) ∧
    ∀ detail, r ≠ .result (.error (.backend detail))

end Reply

/-- Asks a backend. -/
def Backend.reply {σ : Type} (b : Backend σ) : Question → StateM σ Reply
  | .submit c shots => return .submitted (← b.submit c shots)
  | .status id => return .status (← b.status id)
  | .result id => return .result (← b.result id)
  | .wait id => return .result (← b.wait id)

/-! ## Finished jobs -/

namespace StoredJob

/-- A job was completed and has a result, or it failed and has none. -/
def HasEnded (stored : StoredJob) : Prop :=
  (stored.job.status = .completed ∧ stored.result.isSome = true) ∨
    ∃ reason, stored.job.status = .failed reason ∧ stored.result = none

/-- The status of a job whose run ended so. -/
def statusOf : Answer ExecutionResult → JobStatus
  | .ok _ => .completed
  | .error e => .failed e.message

/-- What is handed out for a job whose run ended so. -/
def handedOut : Answer ExecutionResult → Answer ExecutionResult
  | .ok result => .ok result
  | .error e => .error (.jobFailed e.message)

variable (id : JobId) (backend : String) (clock : Clock) (c : Circuit) (shots : Nat)
  (seed : UInt64) (report : Circuit.Panic → String)

theorem status_ofRun :
    (ofRun id backend clock c shots seed report).job.status
      = statusOf (c.taskResult shots seed clock.elapsedMs report) := by
  unfold ofRun
  cases c.taskResult shots seed clock.elapsedMs report with
  | ok result => rfl
  | error e => rfl

theorem hasEnded_ofRun : (ofRun id backend clock c shots seed report).HasEnded := by
  unfold ofRun
  cases c.taskResult shots seed clock.elapsedMs report with
  | ok result => exact Or.inl ⟨rfl, rfl⟩
  | error e => exact Or.inr ⟨e.message, rfl, rfl⟩

theorem HasEnded.handOut_eq {stored : StoredJob} (h : stored.HasEnded) :
    (∃ result, stored.handOut id = .ok result) ∨
      ∃ reason, stored.handOut id = .error (.jobFailed reason) := by
  obtain ⟨job, result⟩ := stored
  unfold handOut
  rcases h with ⟨hstatus, hresult⟩ | ⟨reason, hstatus, -⟩
  · obtain ⟨r, rfl⟩ := Option.isSome_iff_exists.mp hresult
    rw [hstatus]
    exact Or.inl ⟨r, rfl⟩
  · rw [hstatus]
    exact Or.inr ⟨reason, rfl⟩

end StoredJob

namespace Simulator

/-! ## Calls -/

/-- A question to a simulator, with what the clock shows meanwhile. -/
structure Call where
  question : Question
  clock : Clock := {}

/-- Answers a call. -/
def serve (name : Nat → JobId) (call : Call) : StateM Simulator Reply := fun s =>
  (backend s.capabilities name call.clock).reply call.question s

/-- The simulator after a history of calls. -/
def after (name : Nat → JobId) (s : Simulator) (calls : List Call) : Simulator :=
  calls.foldl (fun s call => (serve name call s).2) s

variable {name : Nat → JobId} {s t : Simulator} {call : Call} {reply : Reply}

/-- What one call can do: the reply it gets and the simulator that it leaves. -/
inductive Served (name : Nat → JobId) (s : Simulator) : Call → Reply → Simulator → Prop where
  | accepted {c : Circuit} {shots : Nat} {clock : Clock}
      (h : checkJob s.capabilities c shots = .ok ()) :
      Served name s ⟨.submit c shots, clock⟩ (.submitted (.ok (name s.issued)))
        (s.taken.store (name s.issued) (nextJob name clock c shots s))
  | refused {c : Circuit} {shots : Nat} {clock : Clock} {e : BackendError}
      (h : checkJob s.capabilities c shots = .error e) :
      Served name s ⟨.submit c shots, clock⟩ (.submitted (.error e)) s
  | shown {id : JobId} {clock : Clock} {stored : StoredJob} (h : s.find? id = some stored) :
      Served name s ⟨.status id, clock⟩ (.status (.ok stored.job.status)) s
  | notShown {id : JobId} {clock : Clock} (h : s.find? id = none) :
      Served name s ⟨.status id, clock⟩ (.status (.error (.jobNotFound id))) s
  | collected {id : JobId} {call : Call} {stored : StoredJob}
      (hid : call.question.collected? = some id) (h : s.find? id = some stored) :
      Served name s call (.result (stored.handOut id)) (s.erase id)
  | notCollected {id : JobId} {call : Call} (hid : call.question.collected? = some id)
      (h : s.find? id = none) :
      Served name s call (.result (.error (.jobNotFound id))) s

theorem serve_of_collected? {id : JobId} (hid : call.question.collected? = some id) :
    serve name call s = (.result (result id s).1, (result id s).2) := by
  obtain ⟨question, clock⟩ := call
  cases question with
  | submit c shots => cases hid
  | status other => cases hid
  | result other =>
    cases hid
    rfl
  | wait other =>
    -- Waiting for a job is asking for its result.
    cases hid
    rfl

/-- **A call does what `Served` says**, whatever is asked. -/
theorem served (name : Nat → JobId) (s : Simulator) (call : Call) :
    Served name s call (serve name call s).1 (serve name call s).2 := by
  have hcollects : ∀ id, call.question.collected? = some id →
      Served name s call (serve name call s).1 (serve name call s).2 := by
    intro id hid
    rw [serve_of_collected? hid]
    unfold result
    cases h : s.find? id with
    | none => exact .notCollected hid h
    | some stored => exact .collected hid h
  obtain ⟨question, clock⟩ := call
  cases question with
  | submit c shots =>
    have hserve : serve name ⟨.submit c shots, clock⟩ s
        = (.submitted (submit (reportOf s.issued) name clock c shots s).1,
            (submit (reportOf s.issued) name clock c shots s).2) := rfl
    rw [hserve]
    cases h : checkJob s.capabilities c shots with
    | error e =>
      rw [submit_of_error h]
      exact .refused h
    | ok _ =>
      rw [submit_of_ok h]
      exact .accepted h
  | status id =>
    have hserve : serve name ⟨.status id, clock⟩ s = (.status (status id s).1, (status id s).2) :=
      rfl
    rw [hserve]
    unfold status
    cases h : s.find? id with
    | none => exact .notShown h
    | some stored => exact .shown h
  | result id => exact hcollects id rfl
  | wait id => exact hcollects id rfl

theorem after_cons (name : Nat → JobId) (s : Simulator) (call : Call) (calls : List Call) :
    s.after name (call :: calls) = ((serve name call s).2).after name calls := rfl

/-! ## What a call keeps -/

theorem Served.capabilities_eq (h : Served name s call reply t) :
    t.capabilities = s.capabilities := by
  cases h <;> rfl

theorem Served.issued_le (h : Served name s call reply t) : s.issued ≤ t.issued := by
  cases h with
  | accepted _ => exact Nat.le_succ s.issued
  | refused _ => exact Nat.le_refl _
  | shown _ => exact Nat.le_refl _
  | notShown _ => exact Nat.le_refl _
  | collected _ _ => exact Nat.le_refl _
  | notCollected _ _ => exact Nat.le_refl _

/-- Every job in the store has come to its end. -/
def Settled (s : Simulator) : Prop := ∀ entry ∈ s.jobs, entry.2.HasEnded

theorem Settled.of_find? (h : s.Settled) {id : JobId} {stored : StoredJob}
    (hfind : s.find? id = some stored) : stored.HasEnded := by
  obtain ⟨entry, hentry, rfl⟩ := Option.map_eq_some_iff.mp hfind
  exact h entry (List.mem_of_find?_eq_some hentry)

theorem Settled.erase (h : s.Settled) (id : JobId) : (s.erase id).Settled :=
  fun entry hentry => h entry ((List.mem_filter.mp hentry).1)

theorem Settled.store (h : s.Settled) (id : JobId) {stored : StoredJob}
    (hstored : stored.HasEnded) : (s.store id stored).Settled := by
  intro entry hentry
  rcases List.mem_cons.mp hentry with rfl | hentry
  · exact hstored
  · exact h.erase id entry hentry

theorem Served.settled (h : Served name s call reply t) (hs : s.Settled) : t.Settled := by
  cases h with
  | accepted _ =>
    have htaken : s.taken.Settled := hs
    exact htaken.store _ (StoredJob.hasEnded_ofRun _ _ _ _ _ _ _)
  | refused _ => exact hs
  | shown _ => exact hs
  | notShown _ => exact hs
  | collected _ _ => exact hs.erase _
  | notCollected _ _ => exact hs

/-- A job that has its identifier already is left alone by every call but those that collect it. -/
theorem Served.find?_eq_or (h : Served name s call reply t) (hname : Function.Injective name)
    {k : Nat} (hk : k < s.issued) :
    t.find? (name k) = s.find? (name k) ∨
      call.question.collected? = some (name k) ∧ t.find? (name k) = none := by
  cases h with
  | accepted _ =>
    have hne : name k ≠ name s.issued := fun heq => Nat.ne_of_lt hk (hname heq)
    exact Or.inl (find?_store_of_ne hne s.taken _)
  | refused _ => exact Or.inl rfl
  | shown _ => exact Or.inl rfl
  | notShown _ => exact Or.inl rfl
  | @collected id _ _ hid _ =>
    by_cases heq : name k = id
    · subst heq
      exact Or.inr ⟨hid, find?_erase s _⟩
    · exact Or.inl (find?_erase_of_ne heq s)
  | notCollected _ _ => exact Or.inl rfl

theorem Served.find?_eq (h : Served name s call reply t) (hname : Function.Injective name)
    {k : Nat} (hk : k < s.issued) (hcall : call.question.collected? ≠ some (name k)) :
    t.find? (name k) = s.find? (name k) := by
  rcases h.find?_eq_or hname hk with heq | ⟨hid, -⟩
  · exact heq
  · exact absurd hid hcall

theorem Served.find?_eq_none (h : Served name s call reply t) (hname : Function.Injective name)
    {k : Nat} (hk : k < s.issued) (hnone : s.find? (name k) = none) :
    t.find? (name k) = none := by
  rcases h.find?_eq_or hname hk with heq | ⟨-, heq⟩
  · rw [heq, hnone]
  · exact heq

/-! ## What a history keeps -/

theorem settled_after (hs : s.Settled) (calls : List Call) : (s.after name calls).Settled := by
  induction calls generalizing s with
  | nil => exact hs
  | cons call calls ih => exact ih ((served name s call).settled hs)

/-- A job stays in the store as it is until it is collected. -/
theorem find?_after (hname : Function.Injective name) {k : Nat} (hk : k < s.issued)
    {calls : List Call} (hcalls : ∀ call ∈ calls, call.question.collected? ≠ some (name k)) :
    (s.after name calls).find? (name k) = s.find? (name k) := by
  induction calls generalizing s with
  | nil => rfl
  | cons call calls ih =>
    have h := served name s call
    have hrest : ∀ call ∈ calls, call.question.collected? ≠ some (name k) :=
      fun call hcall => hcalls call (List.mem_cons_of_mem _ hcall)
    rw [after_cons, ih (Nat.lt_of_lt_of_le hk h.issued_le) hrest]
    exact h.find?_eq hname hk (hcalls call List.mem_cons_self)

/-- A job that was collected does not come back. -/
theorem find?_after_eq_none (hname : Function.Injective name) {k : Nat} (hk : k < s.issued)
    (hnone : s.find? (name k) = none) (calls : List Call) :
    (s.after name calls).find? (name k) = none := by
  induction calls generalizing s with
  | nil => exact hnone
  | cons call calls ih =>
    have h := served name s call
    exact ih (Nat.lt_of_lt_of_le hk h.issued_le) (h.find?_eq_none hname hk hnone)

theorem issued_le_after (calls : List Call) : s.issued ≤ (s.after name calls).issued := by
  induction calls generalizing s with
  | nil => exact Nat.le_refl _
  | cons call calls ih => exact Nat.le_trans (served name s call).issued_le ih

/-! ## What is answered -/

theorem Served.isDecided (h : Served name s call reply t) (hs : s.Settled) : reply.IsDecided := by
  cases h with
  | accepted _ => exact ⟨nofun, nofun, nofun⟩
  | refused _ => exact ⟨nofun, nofun, nofun⟩
  | @shown id _ stored hfind =>
    rcases hs.of_find? hfind with ⟨hstatus, -⟩ | ⟨reason, hstatus, -⟩
    · rw [hstatus]
      exact ⟨nofun, nofun, nofun⟩
    · rw [hstatus]
      exact ⟨nofun, nofun, nofun⟩
  | notShown _ => exact ⟨nofun, nofun, nofun⟩
  | @collected id _ stored _ hfind =>
    rcases (hs.of_find? hfind).handOut_eq id with ⟨result, hout⟩ | ⟨reason, hout⟩
    · rw [hout]
      exact ⟨nofun, nofun, nofun⟩
    · rw [hout]
      exact ⟨nofun, nofun, nofun⟩
  | notCollected _ _ => exact ⟨nofun, nofun, nofun⟩

/-- A job that is not in the store is not found, whatever is asked about it. -/
theorem Served.error?_eq (h : Served name s call reply t) {id : JobId}
    (hid : call.question.job? = some id) (hnone : s.find? id = none) :
    reply.error? = some (.jobNotFound id) ∧ t = s := by
  cases h with
  | accepted _ => cases hid
  | refused _ => cases hid
  | shown hfind =>
    cases hid
    rw [hnone] at hfind
    cases hfind
  | notShown _ =>
    cases hid
    exact ⟨rfl, rfl⟩
  | collected hother hfind =>
    rw [Question.job?_of_collected? hother] at hid
    cases hid
    rw [hnone] at hfind
    cases hfind
  | notCollected hother _ =>
    rw [Question.job?_of_collected? hother] at hid
    cases hid
    exact ⟨rfl, rfl⟩

theorem Served.of_refused {e : BackendError} (h : Served name s call (.submitted (.error e)) t) :
    t = s := by
  cases h
  rfl

theorem Served.of_status (h : Served name s call reply t) {id : JobId}
    (hid : call.question = .status id) : t = s := by
  cases h with
  | accepted _ => cases hid
  | refused _ => rfl
  | shown _ => rfl
  | notShown _ => rfl
  | collected hother _ =>
    rw [hid] at hother
    cases hother
  | notCollected _ _ => rfl

theorem Served.of_accepted {c : Circuit} {shots : Nat} {clock : Clock} {id : JobId}
    (h : Served name s ⟨.submit c shots, clock⟩ (.submitted (.ok id)) t) :
    id = name s.issued ∧ t = s.taken.store (name s.issued) (nextJob name clock c shots s) := by
  cases h
  exact ⟨rfl, rfl⟩

theorem serve_status {id : JobId} {stored : StoredJob} (h : s.find? id = some stored)
    (clock : Clock) :
    serve name ⟨.status id, clock⟩ s = (.status (.ok stored.job.status), s) := by
  have hserve : serve name ⟨.status id, clock⟩ s = (.status (status id s).1, (status id s).2) := rfl
  rw [hserve, status, h]

theorem serve_collect {id : JobId} {stored : StoredJob} (h : s.find? id = some stored)
    (hid : call.question.collected? = some id) :
    serve name call s = (.result (stored.handOut id), s.erase id) := by
  rw [serve_of_collected? hid, result, h]

/-- The life of a job whose run ended so: until somebody collects it, it is shown with the status
that it ended with; whoever collects it first is handed out its result; and after that it is not
found any more. -/
structure Lives (name : Nat → JobId) (s : Simulator) (id : JobId)
    (ended : Answer ExecutionResult) : Prop where
  shown : ∀ during : List Call, (∀ call ∈ during, call.question.collected? ≠ some id) →
    ∀ clock, (serve name ⟨.status id, clock⟩ (s.after name during)).1
      = .status (.ok (StoredJob.statusOf ended))
  handedOut : ∀ during : List Call, (∀ call ∈ during, call.question.collected? ≠ some id) →
    ∀ first, first.question.collected? = some id →
      (serve name first (s.after name during)).1 = .result (StoredJob.handedOut ended)
  gone : ∀ during : List Call, (∀ call ∈ during, call.question.collected? ≠ some id) →
    ∀ first, first.question.collected? = some id →
      ∀ later call, call.question.job? = some id →
        (serve name call ((serve name first (s.after name during)).2.after name later)).1.error?
          = some (.jobNotFound id)

/-- A job that is in the store under an identifier that was given lives the life of a job. -/
theorem lives_of_find? (hname : Function.Injective name) {k : Nat} (hk : k < s.issued)
    {stored : StoredJob} (hfind : s.find? (name k) = some stored) {ended : Answer ExecutionResult}
    (hstatus : stored.job.status = StoredJob.statusOf ended)
    (hout : stored.handOut (name k) = StoredJob.handedOut ended) :
    Lives name s (name k) ended := by
  have hstays : ∀ during : List Call,
      (∀ call ∈ during, call.question.collected? ≠ some (name k)) →
      (s.after name during).find? (name k) = some stored := by
    intro during hduring
    rw [find?_after hname hk hduring, hfind]
  constructor
  case shown =>
    intro during hduring clock
    rw [serve_status (hstays during hduring), hstatus]
  case handedOut =>
    intro during hduring first hfirst
    rw [serve_collect (hstays during hduring) hfirst, hout]
  case gone =>
    intro during hduring first hfirst later call hcall
    rw [serve_collect (hstays during hduring) hfirst]
    have hissued : k < ((s.after name during).erase (name k)).issued :=
      Nat.lt_of_lt_of_le hk (issued_le_after during)
    have hnone := find?_after_eq_none hname hissued (find?_erase (s.after name during) _) later
    exact ((served name _ call).error?_eq hcall hnone).1

/-- A job that is accepted lives the life of a job, whatever came before. -/
theorem lives_of_accepted (hname : Function.Injective name) {c : Circuit} {shots : Nat}
    {clock : Clock} {id : JobId}
    (hsubmit : (serve name ⟨.submit c shots, clock⟩ s).1 = .submitted (.ok id)) :
    Lives name (serve name ⟨.submit c shots, clock⟩ s).2 id
      (c.taskResult shots s.generator.next.1 clock.elapsedMs (reportOf s.issued)) := by
  have haccepted := served name s ⟨.submit c shots, clock⟩
  rw [hsubmit] at haccepted
  obtain ⟨rfl, hstate⟩ := haccepted.of_accepted
  rw [hstate]
  exact lives_of_find? hname (Nat.lt_succ_self s.issued) (find?_store s.taken _ _)
    (StoredJob.status_ofRun _ _ _ _ _ _ _) (StoredJob.handOut_ofRun _ _ _ _ _ _ _)

/-- **What all calls on a simulator are answered.** After any history of calls, every job in the
store was completed with a result or failed without one, so no reply speaks of a job that waits,
runs or lacks its result; a refused submission, a question for a status and any question about an
unknown job leave the simulator as it is; and every job that is accepted then lives the life of a
job, with the result of its own run. -/
theorem replies_of_history (name : Nat → JobId) (hname : Function.Injective name) (s : Simulator)
    (hempty : s.jobs = []) (history : List Call) :
    let now := s.after name history
    (∀ entry ∈ now.jobs, entry.2.HasEnded) ∧
    (∀ call, (serve name call now).1.IsDecided) ∧
    (∀ call, ((∃ e, (serve name call now).1 = .submitted (.error e)) ∨
        (∃ id, call.question = .status id) ∨
        ∃ id, call.question.job? = some id ∧ now.find? id = none) →
      (serve name call now).2 = now) ∧
    ∀ c shots clock id, (serve name ⟨.submit c shots, clock⟩ now).1 = .submitted (.ok id) →
      Lives name (serve name ⟨.submit c shots, clock⟩ now).2 id
        (c.taskResult shots now.generator.next.1 clock.elapsedMs (reportOf now.issued)) := by
  intro now
  have hstart : s.Settled := by
    intro entry hentry
    rw [hempty] at hentry
    cases hentry
  have hsettled : now.Settled := settled_after hstart history
  refine ⟨hsettled, ?_, ?_, ?_⟩
  · intro call
    exact (served name now call).isDecided hsettled
  · intro call hidle
    have h := served name now call
    rcases hidle with ⟨e, he⟩ | ⟨id, hid⟩ | ⟨id, hid, hnone⟩
    · rw [he] at h
      exact h.of_refused
    · exact h.of_status hid
    · exact (h.error?_eq hid hnone).2
  · intro c shots clock id hsubmit
    exact lives_of_accepted hname hsubmit

/-- A job that failed, after a question for an identifier not yet given and a refused submission. -/
theorem replies_of_history_unmeasured :
    let start := init 20 7
    let now := start.after toString [⟨.status "0", {}⟩, ⟨.submit (.withSize "wide" 30 0) 5, {}⟩]
    let submission : Call := ⟨.submit (.withSize "bare" 1 0) 10, {}⟩
    Function.Injective (toString : Nat → JobId) ∧ start.jobs = [] ∧
    (serve toString submission now).1 = .submitted (.ok "0") ∧
    Lives toString (serve toString submission now).2 "0"
      (.error (.invalidCircuit "circuit contains no measurements")) := by
  intro start now submission
  have hsubmit : (serve toString submission now).1 = .submitted (.ok (toString 0)) := rfl
  obtain ⟨-, -, -, hlives⟩ := replies_of_history toString
    Number.toString_injective start rfl
    [⟨.status "0", {}⟩, ⟨.submit (.withSize "wide" 30 0) 5, {}⟩]
  exact ⟨Number.toString_injective, rfl, hsubmit, hlives _ _ _ _ hsubmit⟩

end Simulator

end QuantumBlocks
