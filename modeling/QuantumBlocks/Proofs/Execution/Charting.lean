import QuantumBlocks.Proofs.Execution.OnSimulator
import QuantumBlocks.Proofs.Histogram.Summary

/-!
# Charts of summaries

The summary of a program that measures once can be charted. The summary of a program that measures
more than once cannot: its keys have blanks in them, and the reader finds no entry at all.

* `IsKey.isWord`, `IsKey.not_isWord` — the keys that the reader finds, and those that it does not
* `readHistogram_of_success` — when the summary of a program can be charted
-/

namespace QuantumBlocks

open Number

/-! ## Keys as labels -/

theorem mem_intercalate {c : Char} {words : List String}
    (h : c ∈ (String.intercalate " " words).toList) :
    c = ' ' ∨ ∃ word ∈ words, c ∈ word.toList := by
  induction words with
  | nil => simp at h
  | cons word rest ih =>
    cases rest with
    | nil =>
      rw [String.intercalate_singleton] at h
      exact Or.inr ⟨word, List.mem_cons_self, h⟩
    | cons next rest =>
      rw [String.intercalate_cons_cons, String.toList_append, String.toList_append, List.mem_append,
        List.mem_append] at h
      rcases h with (h | h) | h
      · exact Or.inr ⟨word, List.mem_cons_self, h⟩
      · exact Or.inl (List.mem_singleton.mp h)
      · obtain hc | ⟨w, hw, hc⟩ := ih h
        · exact Or.inl hc
        · exact Or.inr ⟨w, List.mem_cons_of_mem _ hw, hc⟩

namespace IsKey

variable {m n : Nat} {key : String}

theorem isPlain (h : IsKey m n key) : IsPlain key.toList := by
  obtain ⟨words, rfl, -, hwords⟩ := h
  intro c hc
  rcases mem_intercalate hc with rfl | ⟨word, hw, hc⟩
  · exact Or.inr rfl
  · rcases (hwords word hw).2 c hc with rfl | rfl
    · exact Or.inl rfl
    · exact Or.inl rfl

/-- The key of one register is a word. -/
theorem isWord (h : IsKey 1 n key) (hn : 1 ≤ n) : IsWord key.toList := by
  obtain ⟨words, rfl, hlen, hwords⟩ := h
  obtain ⟨word, rfl⟩ := List.length_eq_one_iff.mp hlen
  obtain ⟨hsize, hbits⟩ := hwords word List.mem_cons_self
  rw [String.intercalate_singleton]
  constructor
  · intro hnil
    rw [← String.length_toList, hnil] at hsize
    rw [← hsize] at hn
    exact absurd hn (by decide)
  · refine List.all_eq_true.mpr fun c hc => ?_
    rcases hbits c hc with rfl | rfl
    · rfl
    · rfl

/-- The key of several registers has a blank in it. -/
theorem not_isWord (h : IsKey m n key) (hm : 2 ≤ m) : ¬IsWord key.toList := by
  obtain ⟨words, rfl, hlen, -⟩ := h
  match words, hlen with
  | [], hlen => simp at hlen; omega
  | [word], hlen => simp at hlen; omega
  | word :: next :: rest, _ =>
    rintro ⟨-, hall⟩
    have hblank : ' ' ∈ (String.intercalate " " (word :: next :: rest)).toList := by
      rw [String.intercalate_cons_cons, String.toList_append, String.toList_append]
      simp
    exact absurd (List.all_eq_true.mp hall ' ' hblank) (by decide)

end IsKey

/-! ## Counts by keys -/

namespace Counts

variable {c : Counts} {m n : Nat}

/-- **Counts of one register can be charted.** -/
theorem readHistogram_of_one_register (hkeys : ∀ entry ∈ c.entries, IsKey 1 n entry.1)
    (hn : 1 ≤ n) (hlow : 1 ≤ c.total) (hhigh : c.total ≤ maxUnsigned64) (total : Nat) :
    ∃ h, readHistogram (c.summary total) = .ok h ∧ h.entries = c.leaders := by
  have hall := leadingWords_eq_leaders fun entry he => (hkeys entry he).isWord hn
  have hwords : c.leadingWords ≠ [] := by
    rw [hall]
    exact leaders_ne_nil (entries_ne_nil hlow)
  rw [← hall]
  exact readHistogram_summary (fun entry he => (hkeys entry he).isPlain)
    (fun entry he => (le_total he).trans hhigh) hwords total

/-- **Counts of several registers cannot.** -/
theorem readHistogram_of_registers (hkeys : ∀ entry ∈ c.entries, IsKey m n entry.1) (hm : 2 ≤ m)
    (hlow : 1 ≤ c.total) (total : Nat) :
    readHistogram (c.summary total) = .error .unrecognizedText := by
  have hnone : c.leadingWords = [] := List.filter_eq_nil_iff.mpr fun entry he hword =>
    (hkeys entry (mem_of_mem_leaders he)).not_isWord hm (of_decide_eq_true hword)
  exact readHistogram_summary_of_no_words (entries_ne_nil hlow)
    (fun entry he => (hkeys entry he).isPlain) hnone total

end Counts

/-! ## Programs -/

namespace Executor

variable {limits : Limits} {maxQubits : Nat} {name : Nat → JobId} {clock : Clock}
  {generator : Generator} {jobs : List (JobId × StoredJob)} {issued : Nat} {p : List Block}
  {shots : Nat}

/-- A success has measured, and has run at least one shot and no more than simulators admit. -/
theorem shots_of_success
    (h : ((onSimulator limits maxQubits name clock).execute p shots
        ⟨.simulator maxQubits, generator, jobs, issued⟩).1.success = true) :
    1 ≤ limits.clampShots shots ∧ limits.clampShots shots ≤ 100000 ∧
      1 ≤ measurements (lastSegment p) := by
  obtain ⟨-, c, -, -, -, hlow, hhigh, hm⟩ := execute_success_iff.mp h
  exact ⟨hlow, hhigh, List.count_pos_iff.mpr hm⟩

/-- **When the summary of a program can be charted.** A program that succeeds on a simulator and
measures once after its last creation block has a summary that reads as a histogram, with the
outcomes that are listed there, in the order of their rank and with their counts. If it measures
more than once, nothing in the summary is recognized. -/
theorem readHistogram_of_success
    (h : ((onSimulator limits maxQubits name clock).execute p shots
        ⟨.simulator maxQubits, generator, jobs, issued⟩).1.success = true) :
    ∃ counts text,
      ((onSimulator limits maxQubits name clock).execute p shots
          ⟨.simulator maxQubits, generator, jobs, issued⟩).1 = .succeeded counts text ∧
      (measurements (lastSegment p) = 1 →
        ∃ histogram, readHistogram text = .ok histogram ∧
          histogram.entries = counts.ranked.take 5) ∧
      (measurements (lastSegment p) ≠ 1 → readHistogram text = .error .unrecognizedText) := by
  obtain ⟨n, counts, hn, -, houtcome, htotal, hkeys⟩ := execute_of_success h
  obtain ⟨hlow, hhigh, hmeasured⟩ := shots_of_success h
  rw [← htotal] at hlow hhigh
  refine ⟨counts, counts.summary shots, houtcome, ?_, ?_⟩
  · intro hone
    -- A count of the simulator is far below the greatest number that the reader takes.
    rw [hone] at hkeys
    have hmax : counts.total ≤ maxUnsigned64 := hhigh.trans (by decide)
    exact Counts.readHistogram_of_one_register hkeys hn hlow hmax shots
  · intro hmany
    exact Counts.readHistogram_of_registers hkeys (by omega) hlow shots

/-- A program that measures once. -/
theorem readHistogram_measured_once :
    ((onSimulator {} 20 toString {}).execute [.createCircuit 1, .measureAll] 5
        ⟨.simulator 20, .ofSeed 0, [], 0⟩).1.success = true ∧
      ∃ counts text, ((onSimulator {} 20 toString {}).execute [.createCircuit 1, .measureAll] 5
          ⟨.simulator 20, .ofSeed 0, [], 0⟩).1 = .succeeded counts text ∧
        ∃ histogram, readHistogram text = .ok histogram ∧
          histogram.entries = counts.ranked.take 5 := by
  have hcompile : compile [.createCircuit 1, .measureAll]
      = .ok (some (segmentCircuit 1 [.measureAll])) := rfl
  have hsuccess : ((onSimulator {} 20 toString {}).execute [.createCircuit 1, .measureAll] 5
      ⟨.simulator 20, .ofSeed 0, [], 0⟩).1.success = true :=
    execute_success_iff.mpr ⟨rfl, _, hcompile, by decide, by decide, by decide, by decide,
      by decide⟩
  obtain ⟨counts, text, houtcome, hone, -⟩ := readHistogram_of_success hsuccess
  exact ⟨hsuccess, counts, text, houtcome, hone (by decide)⟩

/-- A program that measures twice: it succeeds, and its summary cannot be charted. -/
theorem readHistogram_measured_twice :
    ∃ counts text, ((onSimulator {} 20 toString {}).execute
          [.createCircuit 1, .measureAll, .measureAll] 5 ⟨.simulator 20, .ofSeed 0, [], 0⟩).1
        = .succeeded counts text ∧
      readHistogram text = .error .unrecognizedText := by
  have hcompile : compile [.createCircuit 1, .measureAll, .measureAll]
      = .ok (some (segmentCircuit 1 [.measureAll, .measureAll])) := rfl
  have hsuccess : ((onSimulator {} 20 toString {}).execute
      [.createCircuit 1, .measureAll, .measureAll] 5
      ⟨.simulator 20, .ofSeed 0, [], 0⟩).1.success = true :=
    execute_success_iff.mpr ⟨rfl, _, hcompile, by decide, by decide, by decide, by decide,
      by decide⟩
  obtain ⟨n, counts, -, -, houtcome, htotal, hkeys⟩ := execute_of_success hsuccess
  have hlow : 1 ≤ counts.total := by
    rw [htotal]
    decide
  exact ⟨counts, counts.summary 5, houtcome,
    Counts.readHistogram_of_registers hkeys (by decide) hlow 5⟩

end Executor

end QuantumBlocks
