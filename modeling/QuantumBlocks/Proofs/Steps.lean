import QuantumBlocks.Program.Limits

/-!
# Steps that may fail

Programs, circuits and shots are worked off by steps that may fail, one after the other. What is
said of a whole run is said here once: it succeeds when every step does, it keeps what every step
keeps, and it fails as the first step that fails.
-/

namespace QuantumBlocks

variable {α β ε σ : Type}

/-- Two steps in a row succeed when the first does and the second does from there. -/
theorem bind_eq_ok_iff {x : Except ε α} {f : α → Except ε β} {b : β} :
    (x >>= f) = .ok b ↔ ∃ a, x = .ok a ∧ f a = .ok b := by
  cases x with
  | error e => simp [bind, Except.bind]
  | ok a => simp [bind, Except.bind]

/-- Two steps in a row fail when the first does, or when it succeeds and the second fails from
there. -/
theorem bind_eq_error_iff {x : Except ε α} {f : α → Except ε β} {e : ε} :
    (x >>= f) = .error e ↔ x = .error e ∨ ∃ a, x = .ok a ∧ f a = .error e := by
  cases x with
  | error e' => simp [bind, Except.bind]
  | ok a => simp [bind, Except.bind]

/-- **A run fails as the first step that does.** The steps before it succeed, and those after it
do not matter. -/
theorem foldlM_eq_error_iff {step : σ → α → Except ε σ} {inputs : List α} {s : σ} {e : ε} :
    inputs.foldlM step s = .error e ↔
      ∃ front a back t, inputs = front ++ a :: back ∧ front.foldlM step s = .ok t ∧
        step t a = .error e := by
  induction inputs generalizing s with
  | nil =>
    constructor
    · intro h
      cases h
    · rintro ⟨front, a, back, t, h, -⟩
      simp at h
  | cons b rest ih =>
    rw [List.foldlM_cons, bind_eq_error_iff]
    constructor
    · rintro (h | ⟨u, hu, h⟩)
      · exact ⟨[], b, rest, s, rfl, rfl, h⟩
      · obtain ⟨front, a, back, t, rfl, hfront, ha⟩ := ih.mp h
        refine ⟨b :: front, a, back, t, rfl, ?_, ha⟩
        rw [List.foldlM_cons, hu]
        exact hfront
    · rintro ⟨front, a, back, t, h, hfront, ha⟩
      -- Either `b` itself is the step that fails, or it is the first of those before.
      cases front with
      | nil =>
        obtain ⟨rfl, rfl⟩ := List.cons.inj h
        cases hfront
        exact Or.inl ha
      | cons b' front =>
        obtain ⟨rfl, rfl⟩ := List.cons.inj h
        rw [List.foldlM_cons] at hfront
        obtain ⟨u, hu, hfront⟩ := bind_eq_ok_iff.mp hfront
        exact Or.inr ⟨u, hu, ih.mpr ⟨front, a, back, t, rfl, hfront, ha⟩⟩

/-- **A run from a good state succeeds in a good state** if every step does. -/
theorem exists_foldlM_of_step {step : σ → α → Option σ} {P : σ → Prop} {inputs : List α}
    (h : ∀ s, P s → ∀ a ∈ inputs, ∃ t, step s a = some t ∧ P t) {s : σ} (hs : P s) :
    ∃ t, inputs.foldlM step s = some t ∧ P t := by
  induction inputs generalizing s with
  | nil => exact ⟨s, rfl, hs⟩
  | cons a rest ih =>
    obtain ⟨t, ht, hP⟩ := h s hs a List.mem_cons_self
    obtain ⟨u, hu, hP'⟩ := ih (fun s hs b hb => h s hs b (List.mem_cons_of_mem _ hb)) hP
    refine ⟨u, ?_, hP'⟩
    rw [List.foldlM_cons, ht]
    exact hu

end QuantumBlocks
