import QuantumBlocks.Proofs.Execution.Outcome

/-!
# Waiting by asking

A backend that does not say otherwise waits for a job by asking for its status again and again. It
is watched from outside: everything it is asked while it waits is noted with the answer, and so is
every pause. The notes change nothing.

* `pollForResult_rounds` — the rounds as long as the job is not done
* `watched_wait_of_settled`, `watched_wait_of_pending` — the two ways in which waiting ends
* `of_waitEvents_eq_append` — what was noted just before the result was asked for
* `wait_discipline` — what is asked, how often, and what comes of it
-/

namespace QuantumBlocks

/-! ## Answers and notes -/

/-- An answer that the job is not done. -/
def IsPending (answer : Answer JobStatus) : Prop := answer = .ok .queued ∨ answer = .ok .running

/-- What can be noted of one who waits. -/
inductive WaitEvent where
  | status (job : JobId) (answer : Answer JobStatus)
  | pause (ms : Nat)
  | result (job : JobId) (answer : Answer ExecutionResult)

namespace WaitEvent

/-- Whether a status was asked for. -/
def isStatus : WaitEvent → Bool
  | .status _ _ => true
  | .pause _ | .result _ _ => false

/-- Whether there was a pause. -/
def isPause : WaitEvent → Bool
  | .pause _ => true
  | .status _ _ | .result _ _ => false

/-- Whether a result was asked for. -/
def isResult : WaitEvent → Bool
  | .result _ _ => true
  | .status _ _ | .pause _ => false

end WaitEvent

section Watched

variable {σ α : Type}

/-- Does the same and notes what was answered. -/
def watching (event : α → WaitEvent) (act : StateM σ α) : StateM (σ × List WaitEvent) α := fun s =>
  ((act s.1).1, ((act s.1).2, s.2 ++ [event (act s.1).1]))

/-- Does the same and notes nothing. -/
def unwatched (act : StateM σ α) : StateM (σ × List WaitEvent) α := fun s =>
  ((act s.1).1, ((act s.1).2, s.2))

end Watched

namespace Backend

variable {σ : Type}

/-- A backend that waits as all do that do not say otherwise. -/
def IsPolled (b : Backend σ) : Prop :=
  b.wait = fun job => pollForResult b.status b.result b.pause job maxPolls

/-- A backend that is watched while it waits. How it waits is not said here, so it polls. -/
def watched (b : Backend σ) : Backend (σ × List WaitEvent) where
  name := b.name
  capabilities := b.capabilities
  availability := unwatched b.availability
  submit circuit shots := unwatched (b.submit circuit shots)
  status job := watching (.status job) (b.status job)
  result job := watching (.result job) (b.result job)
  pause ms := watching (fun _ => .pause ms) (b.pause ms)

/-! ## Rounds -/

/-- The state after `k` rounds, in each of which the status is asked for and a pause is made. -/
def afterRounds (b : Backend σ) (job : JobId) (s : σ) : Nat → σ
  | 0 => s
  | k + 1 => (b.pause pollInterval (b.status job (b.afterRounds job s k)).2).2

variable (b : Backend σ) (job : JobId) (s : σ)

/-- The answer to the question for the status that comes after `k` rounds. -/
def statusAnswer (k : Nat) : Answer JobStatus := (b.status job (b.afterRounds job s k)).1

/-- The state once the status was asked for after `k` rounds. -/
def afterStatus (k : Nat) : σ := (b.status job (b.afterRounds job s k)).2

/-- What is noted of `k` rounds. -/
def rounds (k : Nat) : List WaitEvent :=
  (List.range k).flatMap fun i => [.status job (b.statusAnswer job s i), .pause 100]

/-- What is noted while the watched backend waits. -/
def waitEvents : List WaitEvent := (b.watched.wait job (s, [])).2.2

theorem rounds_succ (k : Nat) :
    b.rounds job s (k + 1)
      = b.rounds job s k ++ [.status job (b.statusAnswer job s k), .pause 100] := by
  rw [rounds, List.range_succ, List.flatMap_append, List.flatMap_singleton]
  rfl

theorem countP_isStatus_rounds (k : Nat) : (b.rounds job s k).countP WaitEvent.isStatus = k := by
  induction k with
  | zero => rfl
  | succ k ih =>
    rw [rounds_succ, List.countP_append, ih]
    rfl

theorem filter_isPause_rounds (k : Nat) :
    (b.rounds job s k).filter WaitEvent.isPause = List.replicate k (.pause 100) := by
  induction k with
  | zero => rfl
  | succ k ih =>
    rw [rounds_succ, List.filter_append, ih, List.replicate_succ']
    rfl

theorem isResult_of_mem_rounds {k : Nat} {event : WaitEvent} (h : event ∈ b.rounds job s k) :
    event.isResult = false := by
  obtain ⟨i, -, h⟩ := List.mem_flatMap.mp h
  rcases List.mem_pair.mp h with rfl | rfl
  · rfl
  · rfl

/-! ## Watching the rounds -/

variable {b job s}

theorem afterRounds_watched (log : List WaitEvent) (k : Nat) :
    b.watched.afterRounds job (s, log) k = (b.afterRounds job s k, log ++ b.rounds job s k) := by
  induction k with
  | zero => simp [afterRounds, rounds]
  | succ k ih =>
    have hround : b.watched.afterRounds job (s, log) (k + 1)
        = (b.afterRounds job s (k + 1),
          log ++ b.rounds job s k ++ [.status job (b.statusAnswer job s k)] ++ [.pause 100]) := by
      rw [afterRounds, ih]
      rfl
    rw [hround, rounds_succ, List.append_assoc, List.append_assoc]
    rfl

theorem statusAnswer_watched (log : List WaitEvent) (k : Nat) :
    b.watched.statusAnswer job (s, log) k = b.statusAnswer job s k := by
  rw [statusAnswer, afterRounds_watched]
  rfl

theorem afterStatus_watched (log : List WaitEvent) (k : Nat) :
    b.watched.afterStatus job (s, log) k
      = (b.afterStatus job s k,
        log ++ b.rounds job s k ++ [.status job (b.statusAnswer job s k)]) := by
  rw [afterStatus, afterRounds_watched]
  rfl

/-! ## Polling -/

/-- What waiting does with an answer, `n` questions being left. -/
def afterAnswer (b : Backend σ) (job : JobId) (n : Nat) :
    Answer JobStatus → StateM σ (Answer ExecutionResult)
  | .error e => return .error e
  | .ok .completed => b.result job
  | .ok (.failed reason) => return .error (.jobFailed reason)
  | .ok .queued => do
    b.pause pollInterval
    pollForResult b.status b.result b.pause job n
  | .ok .running => do
    b.pause pollInterval
    pollForResult b.status b.result b.pause job n

section Polling

variable {n k : Nat}

theorem pollForResult_succ :
    pollForResult b.status b.result b.pause job (n + 1) s
      = b.afterAnswer job n (b.status job s).1 (b.status job s).2 := by
  rfl

theorem pollForResult_of_pending (h : IsPending (b.status job s).1) :
    pollForResult b.status b.result b.pause job (n + 1) s
      = pollForResult b.status b.result b.pause job n
        (b.pause pollInterval (b.status job s).2).2 := by
  rw [pollForResult_succ]
  rcases h with h | h
  · rw [h]
    rfl
  · rw [h]
    rfl

theorem pollForResult_zero :
    pollForResult b.status b.result b.pause job 0 s = (.error (.timeout job), s) := rfl

/-- **As long as the job is not done there is another round.** -/
theorem pollForResult_rounds (h : ∀ i < k, IsPending (b.statusAnswer job s i)) :
    pollForResult b.status b.result b.pause job (k + n) s
      = pollForResult b.status b.result b.pause job n (b.afterRounds job s k) := by
  induction k generalizing n with
  | zero => rw [Nat.zero_add, afterRounds]
  | succ k ih =>
    rw [Nat.add_right_comm, Nat.add_assoc, ih fun i hi => h i (Nat.lt_succ_of_lt hi),
      pollForResult_of_pending (h k (Nat.lt_succ_self k))]
    rfl

/-- After the rounds, waiting goes on as the next answer says. -/
theorem wait_eq_afterAnswer (hb : b.IsPolled) (hn : k + (n + 1) = maxPolls)
    (h : ∀ i < k, IsPending (b.statusAnswer job s i)) :
    b.wait job s = b.afterAnswer job n (b.statusAnswer job s k) (b.afterStatus job s k) := by
  rw [hb, ← hn]
  show pollForResult b.status b.result b.pause job (k + (n + 1)) s = _
  rw [pollForResult_rounds h, pollForResult_succ]
  rfl

theorem wait_of_pending (hb : b.IsPolled)
    (h : ∀ i < maxPolls, IsPending (b.statusAnswer job s i)) :
    b.wait job s = (.error (.timeout job), b.afterRounds job s maxPolls) := by
  have hwait : b.wait job s = pollForResult b.status b.result b.pause job (maxPolls + 0) s := by
    rw [hb, Nat.add_zero]
  rw [hwait, pollForResult_rounds h, pollForResult_zero]

theorem isPolled_watched : b.watched.IsPolled := by
  unfold IsPolled
  rfl

theorem watched_wait_eq_afterAnswer (hn : k + (n + 1) = maxPolls)
    (h : ∀ i < k, IsPending (b.statusAnswer job s i)) :
    b.watched.wait job (s, [])
      = b.watched.afterAnswer job n (b.statusAnswer job s k)
        (b.afterStatus job s k,
          b.rounds job s k ++ [.status job (b.statusAnswer job s k)]) := by
  have hwatched : ∀ i < k, IsPending (b.watched.statusAnswer job (s, []) i) := fun i hi => by
    rw [statusAnswer_watched]
    exact h i hi
  rw [wait_eq_afterAnswer isPolled_watched hn hwatched, statusAnswer_watched, afterStatus_watched,
    List.nil_append]

theorem watched_wait_of_pending (h : ∀ i < maxPolls, IsPending (b.statusAnswer job s i)) :
    b.watched.wait job (s, [])
      = (.error (.timeout job), (b.afterRounds job s maxPolls, b.rounds job s maxPolls)) := by
  have hwatched : ∀ i < maxPolls, IsPending (b.watched.statusAnswer job (s, []) i) :=
    fun i hi => by
      rw [statusAnswer_watched]
      exact h i hi
  rw [wait_of_pending isPolled_watched hwatched, afterRounds_watched, List.nil_append]

/-! ## The end of waiting -/

/-- What is noted once the last status is known: where the job is completed, its result is asked
for. -/
def closing (job : JobId) (reply : Answer ExecutionResult) : Answer JobStatus → List WaitEvent
  | .ok .completed => [.result job reply]
  | .ok .queued | .ok .running | .ok (.failed _) | .error _ => []

theorem watched_afterAnswer {answer : Answer JobStatus} (h : ¬ IsPending answer) (t : σ)
    (log : List WaitEvent) :
    b.watched.afterAnswer job n answer (t, log)
      = ((b.afterAnswer job n answer t).1, ((b.afterAnswer job n answer t).2,
        log ++ closing job (b.afterAnswer job n answer t).1 answer)) := by
  match answer with
  | .error e => exact congrArg (fun log => (_, (t, log))) (List.append_nil log).symm
  | .ok .completed => rfl
  | .ok (.failed reason) => exact congrArg (fun log => (_, (t, log))) (List.append_nil log).symm
  | .ok .queued => exact absurd (Or.inl rfl) h
  | .ok .running => exact absurd (Or.inr rfl) h

/-- **Where an answer is not pending, waiting ends with it.** -/
theorem watched_wait_of_settled (hb : b.IsPolled) (hk : k < maxPolls)
    (h : ∀ i < k, IsPending (b.statusAnswer job s i))
    (hsettled : ¬ IsPending (b.statusAnswer job s k)) :
    b.watched.wait job (s, [])
      = ((b.wait job s).1, ((b.wait job s).2,
        b.rounds job s k ++ .status job (b.statusAnswer job s k)
          :: closing job (b.wait job s).1 (b.statusAnswer job s k))) := by
  obtain ⟨n, hn⟩ := Nat.exists_eq_add_of_lt hk
  have hpolls : k + (n + 1) = maxPolls := by omega
  rw [watched_wait_eq_afterAnswer hpolls h, watched_afterAnswer hsettled,
    wait_eq_afterAnswer hb hpolls h, List.append_assoc]
  rfl

/-- Waiting lasts as long as it may, or there is a first answer that is not pending. -/
theorem pending_or_settled (b : Backend σ) (job : JobId) (s : σ) (polls : Nat) :
    (∀ i < polls, IsPending (b.statusAnswer job s i)) ∨
      ∃ k < polls, (∀ i < k, IsPending (b.statusAnswer job s i)) ∧
        ¬ IsPending (b.statusAnswer job s k) := by
  induction polls with
  | zero => exact Or.inl nofun
  | succ polls ih =>
    rcases ih with hall | ⟨k, hk, hfirst⟩
    · by_cases hlast : IsPending (b.statusAnswer job s polls)
      · refine Or.inl fun i hi => ?_
        rcases Nat.lt_succ_iff_lt_or_eq.mp hi with hlt | rfl
        · exact hall i hlt
        · exact hlast
      · exact Or.inr ⟨polls, Nat.lt_succ_self polls, hall, hlast⟩
    · exact Or.inr ⟨k, Nat.lt_succ_of_lt hk, hfirst⟩

theorem waitEvents_of_pending (h : ∀ i < maxPolls, IsPending (b.statusAnswer job s i)) :
    b.waitEvents job s = b.rounds job s maxPolls := by
  rw [waitEvents, watched_wait_of_pending h]

theorem waitEvents_of_settled (hb : b.IsPolled) (hk : k < maxPolls)
    (h : ∀ i < k, IsPending (b.statusAnswer job s i))
    (hsettled : ¬ IsPending (b.statusAnswer job s k)) :
    b.waitEvents job s
      = b.rounds job s k ++ .status job (b.statusAnswer job s k)
          :: closing job (b.wait job s).1 (b.statusAnswer job s k) := by
  rw [waitEvents, watched_wait_of_settled hb hk h hsettled]

/-- The notes change nothing. -/
theorem watched_wait (hb : b.IsPolled) :
    b.watched.wait job (s, []) = ((b.wait job s).1, ((b.wait job s).2, b.waitEvents job s)) := by
  rcases b.pending_or_settled job s maxPolls with hall | ⟨k, hk, hfirst, hsettled⟩
  · rw [waitEvents_of_pending hall, watched_wait_of_pending hall, wait_of_pending hb hall]
  · rw [waitEvents_of_settled hb hk hfirst hsettled,
      watched_wait_of_settled hb hk hfirst hsettled]

theorem countP_isStatus_closing (reply : Answer ExecutionResult) (answer : Answer JobStatus) :
    (closing job reply answer).countP WaitEvent.isStatus = 0 := by
  unfold closing
  split <;> rfl

theorem filter_isPause_closing (reply : Answer ExecutionResult) (answer : Answer JobStatus) :
    (closing job reply answer).filter WaitEvent.isPause = [] := by
  unfold closing
  split <;> rfl

/-- A result is asked for in the end, and only where the last answer is that the job is
completed. -/
theorem of_closing_eq_append {reply result : Answer ExecutionResult} {answer : Answer JobStatus}
    {front back : List WaitEvent} {other : JobId}
    (h : closing job reply answer = front ++ .result other result :: back) :
    front = [] ∧ other = job ∧ answer = .ok .completed := by
  match answer, h with
  | .ok .completed, h =>
    obtain ⟨rfl, h⟩ | ⟨-, h⟩ := List.singleton_eq_append_iff.mp h
    · cases h
      exact ⟨rfl, rfl, rfl⟩
    · cases h
  | .ok .queued, h | .ok .running, h | .ok (.failed _), h | .error _, h => simp [closing] at h

/-- What stands in a list after a front that does not hold it stands in the rest. -/
theorem exists_of_append_eq_append_cons {α : Type} {xs ys front back : List α} {x : α}
    (h : xs ++ ys = front ++ x :: back) (hx : x ∉ xs) :
    ∃ later, front = xs ++ later ∧ ys = later ++ x :: back := by
  rcases List.append_eq_append_iff.mp h with hback | ⟨later, rfl, hback⟩
  · exact hback
  · cases later with
    | nil => exact ⟨[], by simp, hback.symm⟩
    | cons y later =>
      obtain ⟨rfl, -⟩ := List.cons.inj hback
      exact absurd (List.mem_append_right front List.mem_cons_self) hx

/-- **A result is asked for directly after the answer that the job is completed.** -/
theorem of_waitEvents_eq_append (hb : b.IsPolled) {front back : List WaitEvent} {other : JobId}
    {result : Answer ExecutionResult}
    (h : b.waitEvents job s = front ++ .result other result :: back) :
    other = job ∧ ∃ earlier, front = earlier ++ [.status job (.ok .completed)] := by
  have hrounds (polls : Nat) : .result other result ∉ b.rounds job s polls := fun hmem => by
    have hno := isResult_of_mem_rounds b job s hmem
    cases hno
  rcases b.pending_or_settled job s maxPolls with hall | ⟨k, hk, hfirst, hsettled⟩
  · have hmem : .result other result ∈ b.waitEvents job s := by simp [h]
    rw [waitEvents_of_pending hall] at hmem
    exact absurd hmem (hrounds maxPolls)
  · rw [waitEvents_of_settled hb hk hfirst hsettled, List.append_cons] at h
    -- The rounds and the last status hold no result, so they come before it as a whole.
    have hno : .result other result ∉
        b.rounds job s k ++ [.status job (b.statusAnswer job s k)] := by
      simp [hrounds k]
    obtain ⟨later, rfl, hclosing⟩ := exists_of_append_eq_append_cons h hno
    obtain ⟨rfl, rfl, hanswer⟩ := of_closing_eq_append hclosing
    rw [List.append_nil, hanswer]
    exact ⟨rfl, _, rfl⟩

end Polling

/-- **How a backend that polls waits for a job.** The first answer that is not pending, if it is
one of the first 3000, ends the waiting: up to there the status is asked for once more than there
are pauses, each of 100 milliseconds. Then the result of a completed job is asked for and returned;
a failure and an error are returned as they are, and nothing else is asked. If the first 3000
answers are all pending, there is a pause after each of them, and the answer is a timeout. A result
is asked for nowhere but directly after the answer that the job is completed. -/
theorem wait_discipline {b : Backend σ} (hb : b.IsPolled) (job : JobId) (s : σ) :
    let answer := b.statusAnswer job s
    let reply := (b.wait job s).1
    let events := b.waitEvents job s
    b.watched.wait job (s, []) = (reply, ((b.wait job s).2, events)) ∧
    (∀ k < 3000, (∀ i < k, IsPending (answer i)) → ¬ IsPending (answer k) →
      events.countP WaitEvent.isStatus = k + 1 ∧
      events.filter WaitEvent.isPause = List.replicate k (.pause 100) ∧
      (answer k = .ok .completed →
        events = b.rounds job s k ++ [.status job (.ok .completed), .result job reply] ∧
        reply = (b.result job (b.afterStatus job s k)).1) ∧
      (∀ reason, answer k = .ok (.failed reason) →
        events = b.rounds job s k ++ [.status job (.ok (.failed reason))] ∧
        reply = .error (.jobFailed reason)) ∧
      (∀ e, answer k = .error e →
        events = b.rounds job s k ++ [.status job (.error e)] ∧ reply = .error e)) ∧
    ((∀ i < 3000, IsPending (answer i)) →
      events.countP WaitEvent.isStatus = 3000 ∧
      events.filter WaitEvent.isPause = List.replicate 3000 (.pause 100) ∧
      events = b.rounds job s 3000 ∧ reply = .error (.timeout job)) ∧
    (∀ front other result back, events = front ++ .result other result :: back →
      other = job ∧ ∃ earlier, front = earlier ++ [.status job (.ok .completed)]) := by
  intro answer reply events
  refine ⟨watched_wait hb, ?_, ?_, ?_⟩
  · intro k hk hfirst hsettled
    obtain ⟨n, hn⟩ := Nat.exists_eq_add_of_lt hk
    have hevents : events = b.rounds job s k ++ .status job (answer k)
        :: closing job reply (answer k) := waitEvents_of_settled hb hk hfirst hsettled
    have hwait : b.wait job s = b.afterAnswer job n (answer k) (b.afterStatus job s k) :=
      wait_eq_afterAnswer hb (by rw [maxPolls]; omega) hfirst
    refine ⟨?_, ?_, ?_, ?_, ?_⟩
    · rw [hevents, List.countP_append, List.countP_cons_of_pos (by rfl), countP_isStatus_rounds,
        countP_isStatus_closing]
    · rw [hevents, List.filter_append, List.filter_cons_of_neg (by simp [WaitEvent.isPause]),
        filter_isPause_rounds, filter_isPause_closing, List.append_nil]
    · intro hanswer
      rw [hanswer] at hevents hwait
      exact ⟨hevents, congrArg Prod.fst hwait⟩
    · intro reason hanswer
      rw [hanswer] at hevents hwait
      exact ⟨hevents, congrArg Prod.fst hwait⟩
    · intro e hanswer
      rw [hanswer] at hevents hwait
      exact ⟨hevents, congrArg Prod.fst hwait⟩
  · intro hall
    have hevents : events = b.rounds job s 3000 := waitEvents_of_pending hall
    refine ⟨?_, ?_, hevents, congrArg Prod.fst (wait_of_pending hb hall)⟩
    · rw [hevents, countP_isStatus_rounds]
    · rw [hevents, filter_isPause_rounds]
  · intro front other result back h
    exact of_waitEvents_eq_append hb h

/-! ## Scripts -/

/-- A backend that answers the questions for a status one after the other as a script says. -/
def scripted (script : Nat → Answer JobStatus) (result : Answer ExecutionResult) : Backend Nat where
  name := "script"
  capabilities := .simulator 20
  availability := return .ok .always
  submit _ _ := return .ok "1"
  status _ := fun asked => (script asked, asked + 1)
  result _ := return result
  pause _ := return ()

theorem isPolled_scripted (script : Nat → Answer JobStatus) (result : Answer ExecutionResult) :
    (scripted script result).IsPolled := by
  unfold IsPolled
  rfl

/-- The answers of a script are those of the script. -/
theorem statusAnswer_scripted (script : Nat → Answer JobStatus) (result : Answer ExecutionResult)
    (job : JobId) (k : Nat) : (scripted script result).statusAnswer job 0 k = script k := by
  have hasked : (scripted script result).afterRounds job 0 k = k := by
    induction k with
    | zero => rfl
    | succ k ih =>
      rw [afterRounds, ih]
      rfl
  rw [statusAnswer, hasked]
  rfl

/-- A job that is completed when its status is asked for the last time, and one that never is. -/
theorem wait_discipline_last_question :
    let result : ExecutionResult := ⟨.empty, 4, none⟩
    let b := scripted (fun k => if k < 2999 then .ok .running else .ok .completed) (.ok result)
    let c := scripted (fun _ => .ok .queued) (.ok result)
    (b.IsPolled ∧ (∀ i < 2999, IsPending (b.statusAnswer "1" 0 i)) ∧
      b.statusAnswer "1" 0 2999 = .ok .completed ∧
      (b.waitEvents "1" 0).countP WaitEvent.isStatus = 3000 ∧
      (b.waitEvents "1" 0).filter WaitEvent.isPause = List.replicate 2999 (.pause 100) ∧
      b.waitEvents "1" 0
        = b.rounds "1" 0 2999 ++ [.status "1" (.ok .completed), .result "1" (.ok result)] ∧
      (b.wait "1" 0).1 = .ok result) ∧
    c.IsPolled ∧ (∀ i < 3000, IsPending (c.statusAnswer "1" 0 i)) ∧
      c.waitEvents "1" 0 = c.rounds "1" 0 3000 ∧ (c.wait "1" 0).1 = .error (.timeout "1") := by
  intro result b c
  have hb : b.IsPolled := isPolled_scripted _ _
  have hc : c.IsPolled := isPolled_scripted _ _
  have hrunning : ∀ i < 2999, IsPending (b.statusAnswer "1" 0 i) := fun i hi =>
    Or.inr ((statusAnswer_scripted _ _ "1" i).trans (if_pos hi))
  have hcompleted : b.statusAnswer "1" 0 2999 = .ok .completed :=
    (statusAnswer_scripted _ _ "1" 2999).trans (if_neg (by decide))
  have hsettled : ¬ IsPending (b.statusAnswer "1" 0 2999) := by
    rw [hcompleted]
    simp [IsPending]
  have hqueued : ∀ i < 3000, IsPending (c.statusAnswer "1" 0 i) := fun i _ =>
    Or.inl (statusAnswer_scripted _ _ "1" i)
  obtain ⟨-, hdone, -, -⟩ := wait_discipline hb "1" 0
  obtain ⟨-, -, hnever, -⟩ := wait_discipline hc "1" 0
  obtain ⟨hstatuses, hpauses, hresult, -, -⟩ := hdone 2999 (by decide) hrunning hsettled
  obtain ⟨-, -, hrounds, htimeout⟩ := hnever hqueued
  obtain ⟨hevents, hreply⟩ := hresult hcompleted
  have hok : (b.wait "1" 0).1 = .ok result := hreply
  rw [hok] at hevents
  exact ⟨⟨hb, hrunning, hcompleted, hstatuses, hpauses, hevents, hok⟩,
    hc, hqueued, hrounds, htimeout⟩

end Backend

end QuantumBlocks
