import QuantumBlocks.Proofs.Execution.Stages
import QuantumBlocks.Proofs.Number.Digits
import QuantumBlocks.Proofs.Simulator.Seeds
import Mathlib.Data.Fin.VecNotation
import Mathlib.Data.Fintype.Card

/-!
# Executions that run at the same time

Any number of callers share an executor on one simulator, and after each access of one of them any
other may be next. Each has an identifier and a seed of its own, so each gets what its own circuit
gives, and they leave no job behind.

* `Fits`, `Coherent` — what every access keeps (`Coherent.step`), and so every schedule
  (`Coherent.run`)
* `results_of_schedule` — what all callers get, and what they leave behind
-/

namespace QuantumBlocks.Executor

/-! ## Worlds -/

/-- The simulator, how far each call has come, and which call drew which seed so far. -/
structure World (ι : Type) where
  simulator : Simulator
  stage : ι → Stage
  draws : List (ι × UInt64)

namespace World

variable {ι : Type} [DecidableEq ι]

/-- The world when nobody has done anything yet. -/
def start (s : Simulator) : World ι := ⟨s, fun _ => .entered, []⟩

/-- The world when a call has come to a stage. -/
def move (w : World ι) (i : ι) (stage : Stage) (t : Simulator) : World ι :=
  ⟨t, Function.update w.stage i stage, w.draws ++ stage.seed?.toList.map fun seed => (i, seed)⟩

/-- The world when a call has accessed the simulator. -/
def step (limits : Limits) (name : Nat → JobId) (calls : ι → Call) (w : World ι) (i : ι) :
    World ι :=
  let next := (calls i).advance limits name (w.stage i) w.simulator
  w.move i next.1 next.2

/-- The world when the calls have accessed the simulator in this order. -/
def run (limits : Limits) (name : Nat → JobId) (calls : ι → Call) (w : World ι)
    (schedule : List ι) : World ι :=
  schedule.foldl (step limits name calls) w

variable {w : World ι} {i j : ι} {stage : Stage} {t : Simulator}

theorem stage_move_self : (w.move i stage t).stage i = stage := Function.update_self _ _ _

theorem stage_move_of_ne (h : j ≠ i) : (w.move i stage t).stage j = w.stage j :=
  Function.update_of_ne h _ _

theorem mem_draws_move_of_ne (h : j ≠ i) {seed : UInt64} :
    (j, seed) ∈ (w.move i stage t).draws ↔ (j, seed) ∈ w.draws := by
  simp [move, h.symm]

end World

/-! ## What every access keeps -/

/-- What is true of a call at each stage, by the jobs that are found and the seeds that it drew. -/
inductive Fits (limits : Limits) (capabilities : Capabilities) (call : Call)
    (find? : JobId → Option StoredJob) (Drew : UInt64 → Prop) : Stage → Prop where
  | entered (hnone : ∀ seed, ¬ Drew seed) : Fits limits capabilities call find? Drew .entered
  | named {c : Circuit} {id : JobId} (hplan : call.plan limits capabilities = .submit c)
      (hnone : ∀ seed, ¬ Drew seed) : Fits limits capabilities call find? Drew (.named c id)
  | seeded {c : Circuit} {id : JobId} {seed : UInt64}
      (hplan : call.plan limits capabilities = .submit c) (hseed : Drew seed) :
      Fits limits capabilities call find? Drew (.seeded c id seed)
  | stored {c : Circuit} {id : JobId} {seed : UInt64}
      (hplan : call.plan limits capabilities = .submit c) (hseed : Drew seed)
      (hfind : find? id
        = some (.ofRun id capabilities.name call.clock c (call.clamped limits) seed call.report)) :
      Fits limits capabilities call find? Drew (.stored id)
  | refused {r : Result} (hplan : call.plan limits capabilities = .refuse r)
      (hnone : ∀ seed, ¬ Drew seed) : Fits limits capabilities call find? Drew (.done r)
  | ended {c : Circuit} {seed : UInt64} (hplan : call.plan limits capabilities = .submit c)
      (hseed : Drew seed) :
      Fits limits capabilities call find? Drew (.done (call.resultWith limits c seed))

section Fits

variable {limits : Limits} {name : Nat → JobId} {capabilities : Capabilities} {call : Call}
  {s t : Simulator} {from' to' stage : Stage} {find? find?' : JobId → Option StoredJob}
  {Drew Drew' : UInt64 → Prop}

/-- What others do to jobs of their own does not matter to a call. -/
theorem Fits.congr (h : Fits limits capabilities call find? Drew stage)
    (hfind : ∀ id, stage.id? = some id → find?' id = find? id)
    (hdrew : ∀ seed, Drew' seed ↔ Drew seed) :
    Fits limits capabilities call find?' Drew' stage := by
  obtain rfl : Drew' = Drew := funext fun seed => propext (hdrew seed)
  cases h with
  | entered hnone => exact .entered hnone
  | named hplan hnone => exact .named hplan hnone
  | seeded hplan hseed => exact .seeded hplan hseed
  | stored hplan hseed hfound => exact .stored hplan hseed ((hfind _ rfl).trans hfound)
  | refused hplan hnone => exact .refused hplan hnone
  | ended hplan hseed => exact .ended hplan hseed

/-- A call that accesses the simulator comes to a stage that fits what it has done. -/
theorem Fits.move (h : Fits limits s.capabilities call s.find? Drew from')
    (m : Move limits name call s from' to' t)
    (hdrew : ∀ seed, Drew' seed ↔ Drew seed ∨ to'.seed? = some seed) :
    Fits limits s.capabilities call t.find? Drew' to' := by
  cases m with
  | refused hplan =>
    cases h with
    | entered hnone => exact .refused hplan fun seed => by simp [hdrew, hnone, Stage.seed?]
  | issued hplan =>
    cases h with
    | entered hnone => exact .named hplan fun seed => by simp [hdrew, hnone, Stage.seed?]
  | drawn =>
    cases h with
    | named hplan _ => exact .seeded hplan ((hdrew _).mpr (Or.inr rfl))
  | stored =>
    cases h with
    | seeded hplan hseed =>
      exact .stored hplan ((hdrew _).mpr (Or.inl hseed)) (Simulator.find?_store s _ _)
  | collected hfind =>
    cases h with
    | stored hplan hseed hfound =>
      rw [hfound] at hfind
      cases hfind
      rw [Call.received_handOut_ofRun]
      exact .ended hplan ((hdrew _).mpr (Or.inl hseed))
  | missed hfind =>
    -- Nobody else removes the job that a call has stored.
    cases h with
    | stored hplan hseed hfound =>
      rw [hfound] at hfind
      cases hfind
  | rested =>
    cases h with
    | refused hplan hnone => exact .refused hplan fun seed => by simp [hdrew, hnone, Stage.seed?]
    | ended hplan hseed => exact .ended hplan ((hdrew _).mpr (Or.inl hseed))

end Fits

variable {ι : Type}

/-- **What every access keeps.** Compared to the simulator `s` that all calls started with, every
identifier that is in use is new and belongs to one call, every job that was added is waiting for
the call that stored it, and the seeds were drawn one after the other, by no call twice. -/
structure Coherent (limits : Limits) (name : Nat → JobId) (calls : ι → Call) (s : Simulator)
    (w : World ι) : Prop where
  capabilities : w.simulator.capabilities = s.capabilities
  issued : s.issued ≤ w.simulator.issued
  ids : ∀ i id, (w.stage i).id? = some id →
    ∃ k, s.issued ≤ k ∧ k < w.simulator.issued ∧ name k = id
  unshared : ∀ i j id, (w.stage i).id? = some id → (w.stage j).id? = some id → i = j
  jobs : ∃ pending, w.simulator.jobs = pending ++ s.jobs ∧
    ∀ entry ∈ pending, ∃ i, w.stage i = .stored entry.1
  generator : w.simulator.generator = s.generator.skip w.draws.length
  seeds : w.draws.map Prod.snd = (List.range w.draws.length).map s.generator.upcoming
  callers : (w.draws.map Prod.fst).Nodup
  fits : ∀ i, Fits limits s.capabilities (calls i) w.simulator.find?
    (fun seed => (i, seed) ∈ w.draws) (w.stage i)

namespace Coherent

variable {limits : Limits} {name : Nat → JobId} {calls : ι → Call} {s t : Simulator}
  {w : World ι} {i : ι} {stage : Stage}

theorem start (limits : Limits) (name : Nat → JobId) (calls : ι → Call) (s : Simulator) :
    Coherent limits name calls s (World.start s) where
  capabilities := rfl
  issued := Nat.le_refl _
  ids := nofun
  unshared := nofun
  jobs := ⟨[], rfl, nofun⟩
  generator := rfl
  seeds := rfl
  callers := List.nodup_nil
  fits _ := .entered nofun

/-- The next identifier is not in use. -/
theorem id?_ne (h : Coherent limits name calls s w) (hname : Function.Injective name) (j : ι) :
    (w.stage j).id? ≠ some (name w.simulator.issued) := by
  intro hid
  obtain ⟨k, -, hk, heq⟩ := h.ids j _ hid
  exact Nat.ne_of_lt hk (hname heq)

/-- Without the job of one call, the store still has all jobs that were there from the start and
those that wait for other calls. -/
theorem jobs_erase (h : Coherent limits name calls s w)
    (hfresh : ∀ k, s.issued ≤ k → ∀ entry ∈ s.jobs, entry.1 ≠ name k) {id : JobId}
    (hid : (w.stage i).id? = some id) :
    ∃ pending, (w.simulator.erase id).jobs = pending ++ s.jobs ∧
      ∀ entry ∈ pending, entry.1 ≠ id ∧ ∃ j, w.stage j = .stored entry.1 := by
  obtain ⟨pending, hjobs, hpending⟩ := h.jobs
  obtain ⟨k, hlow, -, rfl⟩ := h.ids i id hid
  refine ⟨pending.filter fun entry => entry.1 ≠ name k, ?_, ?_⟩
  · have hold : (s.jobs.filter fun entry => entry.1 ≠ name k) = s.jobs := by
      rw [List.filter_eq_self]
      exact fun entry he => decide_eq_true (hfresh k hlow entry he)
    rw [Simulator.erase, hjobs, List.filter_append, hold]
  · intro entry he
    obtain ⟨he, hne⟩ := List.mem_filter.mp he
    exact ⟨of_decide_eq_true hne, hpending entry he⟩

variable [DecidableEq ι]

/-- An identifier that is in use after an access was in use before, by the same call, or it is the
next one and belongs to the call that took it. -/
theorem of_id?_move (m : Move limits name (calls i) w.simulator (w.stage i) stage t) {j : ι}
    {id : JobId} (hid : ((w.move i stage t).stage j).id? = some id) :
    (w.stage j).id? = some id ∨
      j = i ∧ id = name w.simulator.issued ∧ t.issued = w.simulator.issued + 1 := by
  by_cases hji : j = i
  · subst hji
    rw [World.stage_move_self] at hid
    rcases m.of_id? hid with h | h
    · exact Or.inl h
    · exact Or.inr ⟨rfl, h⟩
  · rw [World.stage_move_of_ne hji] at hid
    exact Or.inl hid

theorem ids_move (h : Coherent limits name calls s w)
    (m : Move limits name (calls i) w.simulator (w.stage i) stage t) (j : ι) (id : JobId)
    (hid : ((w.move i stage t).stage j).id? = some id) :
    ∃ k, s.issued ≤ k ∧ k < t.issued ∧ name k = id := by
  rcases of_id?_move m hid with hold | ⟨-, rfl, hissued⟩
  · obtain ⟨k, hlow, hhigh, heq⟩ := h.ids j id hold
    exact ⟨k, hlow, Nat.lt_of_lt_of_le hhigh m.issued_le, heq⟩
  · exact ⟨w.simulator.issued, h.issued, by omega, rfl⟩

theorem unshared_move (h : Coherent limits name calls s w) (hname : Function.Injective name)
    (m : Move limits name (calls i) w.simulator (w.stage i) stage t) (j k : ι) (id : JobId)
    (hj : ((w.move i stage t).stage j).id? = some id)
    (hk : ((w.move i stage t).stage k).id? = some id) : j = k := by
  -- If one of the two has just taken the identifier, the other cannot have had it already.
  rcases of_id?_move m hj with hj' | ⟨rfl, rfl, -⟩
  · rcases of_id?_move m hk with hk' | ⟨rfl, rfl, -⟩
    · exact h.unshared j k id hj' hk'
    · exact absurd hj' (h.id?_ne hname j)
  · rcases of_id?_move m hk with hk' | ⟨rfl, -, -⟩
    · exact absurd hk' (h.id?_ne hname k)
    · rfl

theorem draws_move (h : Coherent limits name calls s w)
    (m : Move limits name (calls i) w.simulator (w.stage i) stage t) :
    let w' := w.move i stage t
    t.generator = s.generator.skip w'.draws.length ∧
      w'.draws.map Prod.snd = (List.range w'.draws.length).map s.generator.upcoming ∧
      (w'.draws.map Prod.fst).Nodup := by
  intro w'
  rcases m.seed?_cases with ⟨hseed, hgenerator⟩ | ⟨⟨c, id, hfrom⟩, hseed, hgenerator⟩
  · have hdraws : w'.draws = w.draws := by simp [w', World.move, hseed]
    rw [hdraws, hgenerator]
    exact ⟨h.generator, h.seeds, h.callers⟩
  · have hdraws : w'.draws = w.draws ++ [(i, w.simulator.generator.next.1)] := by
      simp [w', World.move, hseed]
    -- A call draws only after it was named, and so only once.
    have hnew : i ∉ w.draws.map Prod.fst := by
      have hfits := h.fits i
      rw [hfrom] at hfits
      cases hfits with
      | named _ hnone => simpa using hnone
    rw [hdraws, List.length_append, List.map_append, List.map_append]
    refine ⟨?_, ?_, ?_⟩
    · rw [hgenerator, h.generator]
      rfl
    · rw [h.seeds, h.generator, Generator.next_skip, List.length_singleton, List.range_succ,
        List.map_append]
      rfl
    · refine List.nodup_append.mpr ⟨h.callers, List.nodup_singleton i, ?_⟩
      rintro a ha b hb rfl
      rw [List.mem_singleton.mp hb] at ha
      exact hnew ha

theorem jobs_move (h : Coherent limits name calls s w)
    (hfresh : ∀ k, s.issued ≤ k → ∀ entry ∈ s.jobs, entry.1 ≠ name k)
    (m : Move limits name (calls i) w.simulator (w.stage i) stage t) :
    ∃ pending, t.jobs = pending ++ s.jobs ∧
      ∀ entry ∈ pending, ∃ j, (w.move i stage t).stage j = .stored entry.1 := by
  -- Jobs that wait for other calls keep waiting for them.
  have hkeeps : ∀ id, w.stage i ≠ .stored id → (∃ j, w.stage j = .stored id) →
      ∃ j, (w.move i stage t).stage j = .stored id := by
    rintro id hne ⟨j, hj⟩
    have hji : j ≠ i := by
      rintro rfl
      exact hne hj
    exact ⟨j, (World.stage_move_of_ne hji).trans hj⟩
  obtain ⟨pending, hjobs, hpending⟩ := h.jobs
  have hfits := h.fits i
  have herase := fun id (hid : (w.stage i).id? = some id) => h.jobs_erase hfresh hid
  generalize w.stage i = from' at m hkeeps hfits herase
  cases m with
  | refused _ => exact ⟨pending, hjobs, fun entry he => hkeeps _ nofun (hpending entry he)⟩
  | issued _ => exact ⟨pending, hjobs, fun entry he => hkeeps _ nofun (hpending entry he)⟩
  | drawn => exact ⟨pending, hjobs, fun entry he => hkeeps _ nofun (hpending entry he)⟩
  | @stored c id seed =>
    obtain ⟨rest, hrest, hwaits⟩ := herase id rfl
    refine ⟨(id, _) :: rest, congrArg (_ :: ·) hrest, ?_⟩
    intro entry he
    rcases List.mem_cons.mp he with rfl | he
    · exact ⟨i, World.stage_move_self⟩
    · exact hkeeps _ nofun (hwaits entry he).2
  | @collected id stored _ =>
    obtain ⟨rest, hrest, hwaits⟩ := herase id rfl
    refine ⟨rest, hrest, fun entry he => hkeeps _ ?_ (hwaits entry he).2⟩
    intro heq
    exact (hwaits entry he).1 (Stage.stored.inj heq).symm
  | missed hnone =>
    cases hfits with
    | stored _ _ hfind =>
      rw [hfind] at hnone
      cases hnone
  | rested => exact ⟨pending, hjobs, fun entry he => hkeeps _ nofun (hpending entry he)⟩

theorem fits_move (h : Coherent limits name calls s w)
    (m : Move limits name (calls i) w.simulator (w.stage i) stage t) (j : ι) :
    Fits limits s.capabilities (calls j) t.find?
      (fun seed => (j, seed) ∈ (w.move i stage t).draws) ((w.move i stage t).stage j) := by
  by_cases hji : j = i
  · subst hji
    have hfits := h.fits j
    rw [← h.capabilities] at hfits ⊢
    rw [World.stage_move_self]
    exact hfits.move m fun seed => by simp [World.move]
  · rw [World.stage_move_of_ne hji]
    refine (h.fits j).congr ?_ fun seed => World.mem_draws_move_of_ne hji
    intro id hid
    exact m.find?_eq fun hother => hji (h.unshared j i id hid hother)

/-- **Every access keeps it.** -/
theorem step (h : Coherent limits name calls s w) (hname : Function.Injective name)
    (hfresh : ∀ k, s.issued ≤ k → ∀ entry ∈ s.jobs, entry.1 ≠ name k) (i : ι) :
    Coherent limits name calls s (w.step limits name calls i) := by
  have m := moves limits name (calls i) (w.stage i) w.simulator
  obtain ⟨hgenerator, hseeds, hcallers⟩ := h.draws_move m
  exact {
    capabilities := m.capabilities_eq.trans h.capabilities
    issued := Nat.le_trans h.issued m.issued_le
    ids := h.ids_move m
    unshared := h.unshared_move hname m
    jobs := h.jobs_move hfresh m
    generator := hgenerator
    seeds := hseeds
    callers := hcallers
    fits := h.fits_move m }

theorem run (h : Coherent limits name calls s w) (hname : Function.Injective name)
    (hfresh : ∀ k, s.issued ≤ k → ∀ entry ∈ s.jobs, entry.1 ≠ name k) (schedule : List ι) :
    Coherent limits name calls s (w.run limits name calls schedule) := by
  induction schedule generalizing w with
  | nil => exact h
  | cons i schedule ih => exact ih (h.step hname hfresh i)

end Coherent

/-! ## What all callers get -/

section Fits

variable {limits : Limits} {capabilities : Capabilities} {call : Call} {stage : Stage}
  {find? : JobId → Option StoredJob} {Drew : UInt64 → Prop}

theorem Fits.isSubmission (h : Fits limits capabilities call find? Drew stage) {seed : UInt64}
    (hseed : Drew seed) : (call.plan limits capabilities).isSubmission = true := by
  cases h with
  | entered hnone => exact absurd hseed (hnone seed)
  | named _ hnone => exact absurd hseed (hnone seed)
  | seeded hplan _ => exact Plan.isSubmission_iff.mpr ⟨_, hplan⟩
  | stored hplan _ _ => exact Plan.isSubmission_iff.mpr ⟨_, hplan⟩
  | refused _ hnone => exact absurd hseed (hnone seed)
  | ended hplan _ => exact Plan.isSubmission_iff.mpr ⟨_, hplan⟩

/-- The result of a call is that of its circuit with the seed that it drew, or its refusal. -/
theorem Fits.result_eq {r : Result} (h : Fits limits capabilities call find? Drew (.done r)) :
    (call.plan limits capabilities = .refuse r ∧ ∀ seed, ¬ Drew seed) ∨
      ∃ c seed, call.plan limits capabilities = .submit c ∧ Drew seed ∧
        r = call.resultWith limits c seed := by
  cases h with
  | refused hplan hnone => exact Or.inl ⟨hplan, hnone⟩
  | ended hplan hseed => exact Or.inr ⟨_, _, hplan, hseed, rfl⟩

theorem Fits.result_ne_jobNotFound {r : Result}
    (h : Fits limits capabilities call find? Drew (.done r)) (id : JobId) :
    r ≠ .error (.backend (.jobNotFound id)) := by
  rcases h.result_eq with ⟨hplan, -⟩ | ⟨c, seed, -, -, rfl⟩
  · rintro rfl
    exact Call.plan_ne_jobNotFound id hplan
  · exact Call.resultWith_ne_jobNotFound c seed id

end Fits

section Schedule

variable {ι : Type} {limits : Limits} {name : Nat → JobId} {calls : ι → Call} {s : Simulator}
  {w : World ι}

theorem Coherent.isSubmission_of_mem_draws (h : Coherent limits name calls s w) {i : ι}
    (hi : i ∈ w.draws.map Prod.fst) :
    ((calls i).plan limits s.capabilities).isSubmission = true := by
  obtain ⟨⟨j, seed⟩, hmem, rfl⟩ := List.mem_map.mp hi
  exact (h.fits j).isSubmission hmem

/-- When all calls are done, those that drew a seed are those that submitted a circuit. -/
theorem Coherent.mem_draws_iff (h : Coherent limits name calls s w)
    (hdone : ∀ i, ∃ r, w.stage i = .done r) {i : ι} :
    i ∈ w.draws.map Prod.fst ↔ ((calls i).plan limits s.capabilities).isSubmission = true := by
  constructor
  · exact h.isSubmission_of_mem_draws
  · intro hsubmits
    obtain ⟨r, hr⟩ := hdone i
    have hfits := h.fits i
    rw [hr] at hfits
    rcases hfits.result_eq with ⟨hplan, -⟩ | ⟨c, seed, -, hseed, -⟩
    · rw [hplan] at hsubmits
      cases hsubmits
    · exact List.mem_map_of_mem hseed

/-- When all calls are done, the store is what it was. -/
theorem Coherent.jobs_eq (h : Coherent limits name calls s w)
    (hdone : ∀ i, ∃ r, w.stage i = .done r) : w.simulator.jobs = s.jobs := by
  obtain ⟨pending, hjobs, hpending⟩ := h.jobs
  have hempty : pending = [] := by
    rw [List.eq_nil_iff_forall_not_mem]
    intro entry he
    obtain ⟨i, hi⟩ := hpending entry he
    obtain ⟨r, hr⟩ := hdone i
    rw [hr] at hi
    cases hi
  rw [hjobs, hempty, List.nil_append]

variable [DecidableEq ι]

/-- A call needs no more accesses than it has stages to go. -/
theorem remaining_run (w : World ι) (schedule : List ι) (i : ι) :
    ((w.run limits name calls schedule).stage i).remaining
      ≤ (w.stage i).remaining - schedule.count i := by
  induction schedule generalizing w with
  | nil => exact Nat.le_refl _
  | cons j schedule ih =>
    refine Nat.le_trans (ih (w.step limits name calls j)) ?_
    by_cases hji : j = i
    · subst hji
      have hstep := (moves limits name (calls j) (w.stage j) w.simulator).remaining_le
      rw [List.count_cons_self, World.step, World.stage_move_self]
      omega
    · rw [List.count_cons_of_ne hji, World.step, World.stage_move_of_ne (Ne.symm hji)]

/-- **What all callers get.** However the accesses of the calls are scheduled, each call that comes
to its end gets what its execution alone gives on a simulator that draws the same seed next: the
result of its own circuit with the seed that it drew, unless it was refused and drew none. No call
misses its job. The seeds are the next words of the generator, each drawn by a call of its own that
submits a circuit. When all calls are done, so many seeds were drawn as circuits were submitted,
and the store is what it was. Four accesses are enough for a call. -/
theorem results_of_schedule [Fintype ι] (limits : Limits) (name : Nat → JobId)
    (hname : Function.Injective name) (calls : ι → Call) (s : Simulator)
    (hfresh : ∀ k, s.issued ≤ k → ∀ entry ∈ s.jobs, entry.1 ≠ name k) (schedule : List ι) :
    let w := (World.start s).run limits name calls schedule
    (∀ i r, w.stage i = .done r →
      (∀ id, r ≠ .error (.backend (.jobNotFound id))) ∧
      ((calls i).plan limits s.capabilities = .refuse r ∧ i ∉ w.draws.map Prod.fst ∨
        ∃ c seed, (calls i).plan limits s.capabilities = .submit c ∧ (i, seed) ∈ w.draws ∧
          r = (calls i).resultWith limits c seed) ∧
      ∀ t : Simulator, t.capabilities = s.capabilities →
        (∀ seed, (i, seed) ∈ w.draws → t.generator.next.1 = seed) →
        (((calls i).executor limits name t.capabilities).execute (calls i).blocks
          (calls i).shots t).1 = outcome (calls i).shots r) ∧
    (w.draws.map Prod.snd = (List.range w.draws.length).map s.generator.upcoming ∧
      (w.draws.map Prod.fst).Nodup ∧
      ∀ i ∈ w.draws.map Prod.fst, ((calls i).plan limits s.capabilities).isSubmission = true) ∧
    ((∀ i, ∃ r, w.stage i = .done r) →
      w.draws.length
          = (Finset.univ.filter fun i => ((calls i).plan limits s.capabilities).isSubmission).card ∧
        w.simulator.jobs = s.jobs) ∧
    ∀ i, 4 ≤ schedule.count i → ∃ r, w.stage i = .done r := by
  intro w
  have h : Coherent limits name calls s w :=
    (Coherent.start limits name calls s).run hname hfresh schedule
  refine ⟨?_, ⟨h.seeds, h.callers, fun i => h.isSubmission_of_mem_draws⟩, ?_, ?_⟩
  · intro i r hr
    have hfits := h.fits i
    rw [hr] at hfits
    refine ⟨hfits.result_ne_jobNotFound, ?_, ?_⟩
    · rcases hfits.result_eq with ⟨hplan, hnone⟩ | hended
      · exact Or.inl ⟨hplan, by simpa using hnone⟩
      · exact Or.inr hended
    · intro t ht hseed
      rcases hfits.result_eq with ⟨hplan, -⟩ | ⟨c, seed, hplan, hmem, rfl⟩
      · exact execute_of_refuse (by rw [ht, hplan])
      · rw [← hseed seed hmem]
        exact execute_of_submit (by rw [ht, hplan])
  · intro hdone
    refine ⟨?_, h.jobs_eq hdone⟩
    rw [← List.length_map Prod.fst, ← List.toFinset_card_of_nodup h.callers]
    congr 1
    ext i
    rw [List.mem_toFinset, h.mem_draws_iff hdone, Finset.mem_filter]
    exact ⟨fun hi => ⟨Finset.mem_univ i, hi⟩, And.right⟩
  · intro i hcount
    have hremaining : (w.stage i).remaining ≤ 4 - schedule.count i :=
      remaining_run (World.start s) schedule i
    exact Stage.exists_done_of_remaining (by omega)

/-- A circuit that is measured, one that is not, and a program without a circuit, on a simulator
that keeps the job of somebody else. -/
theorem results_of_schedule_three_calls :
    let calls : Fin 3 → Call := ![
      { blocks := [.createCircuit 1, .gate (.h 0), .measureAll], shots := 100 },
      { blocks := [.createCircuit 2], shots := 10 }, { blocks := [], shots := 10 }]
    let s : Simulator := ⟨.simulator 20, .ofSeed 7,
      [(toString 7, .ofRun (toString 7) "simulator" {} (.withSize "bare" 1 0) 10 0)], 8⟩
    let schedule : List (Fin 3) := [0, 1, 2, 0, 1, 1, 0, 2, 1, 0, 2, 2]
    let w := (World.start s).run {} toString calls schedule
    Function.Injective (toString : Nat → JobId) ∧
    (∀ k, s.issued ≤ k → ∀ entry ∈ s.jobs, entry.1 ≠ toString k) ∧
    w.draws.length = 2 ∧ w.simulator.jobs = s.jobs ∧
    ∃ c seed, (1, seed) ∈ w.draws ∧ w.stage 1 = .done ((calls 1).resultWith {} c seed) := by
  intro calls s schedule w
  have hfresh : ∀ k, s.issued ≤ k → ∀ entry ∈ s.jobs, entry.1 ≠ toString k := by
    intro k hk entry hentry heq
    rw [List.mem_singleton.mp hentry] at heq
    have hseven : 7 = k := Number.toString_injective heq
    have height : 8 ≤ k := hk
    omega
  obtain ⟨hresults, -, hend, hdone⟩ :=
    results_of_schedule {} toString Number.toString_injective calls s hfresh schedule
  have hall : ∀ i, ∃ r, w.stage i = .done r := fun i => hdone i (by revert i; decide)
  obtain ⟨hcount, hjobs⟩ := hend hall
  obtain ⟨r, hr⟩ := hall 1
  have hsubmits : ((calls 1).plan {} s.capabilities).isSubmission = true := rfl
  obtain ⟨-, ⟨hplan, -⟩ | ⟨c, seed, -, hseed, rfl⟩, -⟩ := hresults 1 r hr
  · rw [hplan] at hsubmits
    cases hsubmits
  · exact ⟨Number.toString_injective, hfresh, hcount, hjobs, c, seed, hseed, hr⟩

end Schedule

end QuantumBlocks.Executor
