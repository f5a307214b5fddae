import QuantumBlocks.Text.Blank
import Mathlib.Data.List.TakeWhile

/-!
# Runs of characters

A run of characters of one class goes as far as the class does. Where a text is put together from
a part and a rest that begins with a stranger to the class, the runs of the part are those of the
whole.

* `dropWhile_run` — a run is dropped up to the first stranger
* `trimChars_surround` — the blanks around a text are taken off
-/

namespace QuantumBlocks

open Text

/-- A run of characters of one class. -/
abbrev Run (p : Char → Bool) : Type := { cs : List Char // ∀ c ∈ cs, p c = true }

/-- A run whose characters are checked one by one. -/
def Run.ofAll {p : Char → Bool} (cs : List Char) (h : cs.all p = true) : Run p :=
  ⟨cs, List.all_eq_true.mp h⟩

section Runs

variable {p : Char → Bool} {cs rest : List Char}

/-- A run ends where the text ends, if the text after it begins with a stranger. -/
theorem takeWhile_append_of_head (h : ∀ c ∈ rest.head?, p c = false) :
    (cs ++ rest).takeWhile p = cs.takeWhile p := by
  induction cs with
  | nil =>
    cases rest with
    | nil => rfl
    | cons c rest => rw [List.nil_append, List.takeWhile_cons, h c rfl]; rfl
  | cons c cs ih => rw [List.cons_append, List.takeWhile_cons, List.takeWhile_cons, ih]

theorem dropWhile_append_of_head (h : ∀ c ∈ rest.head?, p c = false) :
    (cs ++ rest).dropWhile p = cs.dropWhile p ++ rest := by
  induction cs with
  | nil =>
    cases rest with
    | nil => rfl
    | cons c rest => rw [List.nil_append, List.dropWhile_cons, h c rfl]; rfl
  | cons c cs ih =>
    rw [List.cons_append, List.dropWhile_cons, List.dropWhile_cons, ih]
    split <;> rfl

/-- A run is dropped, and the stranger after it stays. -/
theorem dropWhile_run (run : Run p) {c : Char} (hc : p c = false) (rest : List Char) :
    (run.1 ++ c :: rest).dropWhile p = c :: rest := by
  rw [List.dropWhile_append_of_pos run.2, List.dropWhile_cons_of_neg (by simp [hc])]

/-- A run in front of a stranger to another class shows none of that class at its head. -/
theorem head?_run_append {q : Char → Prop} (run : Run p) (hrun : ∀ c, p c = true → q c) {c : Char}
    (hc : q c) (rest : List Char) : ∀ d ∈ (run.1 ++ c :: rest).head?, q d := by
  obtain ⟨cs, hcs⟩ := run
  cases cs with
  | nil =>
    rintro d ⟨⟩
    exact hc
  | cons d cs =>
    rintro d ⟨⟩
    exact hrun d (hcs d List.mem_cons_self)

end Runs

/-! ## Trimming -/

/-- The blanks around a text that neither begins nor ends with one are taken off. -/
theorem trimChars_surround (front back : Run isBlank) {core : List Char}
    (hhead : ∀ c ∈ core.head?, isBlank c = false) (hlast : ∀ c ∈ core.getLast?, isBlank c = false) :
    trimChars (front.1 ++ (core ++ back.1)) = core := by
  have hback : ∀ c ∈ back.1.reverse, isBlank c = true := fun c hc =>
    back.2 c (List.mem_reverse.mp hc)
  rw [trimChars, dropBlank, dropBlank, List.dropWhile_append_of_pos front.2]
  cases core with
  | nil =>
    rw [List.nil_append, List.dropWhile_eq_nil_iff.mpr back.2]
    rfl
  | cons c core =>
    have hfirst : ¬isBlank c = true := by
      rw [hhead c rfl]
      decide
    rw [List.cons_append, List.dropWhile_cons_of_neg hfirst, ← List.cons_append,
      List.reverse_append, List.dropWhile_append_of_pos hback]
    rw [← List.head?_reverse] at hlast
    cases hreverse : (c :: core).reverse with
    | nil => exact absurd (List.reverse_eq_nil_iff.mp hreverse) (List.cons_ne_nil _ _)
    | cons d rest =>
      have hd : ¬isBlank d = true := by
        rw [hlast d (by rw [hreverse]; rfl)]
        decide
      rw [List.dropWhile_cons_of_neg hd, ← hreverse, List.reverse_reverse]

end QuantumBlocks
