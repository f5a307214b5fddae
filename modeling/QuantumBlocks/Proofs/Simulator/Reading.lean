import QuantumBlocks.Simulator.Run
import Mathlib.Algebra.GroupWithZero.Nat

/-!
# What a record reads as

A record with as many bits as its registers have together reads as one word for each register. No
bit is looked up outside the record, and none is left out.

* `IsReading` — the texts that registers of given sizes read as
* `IsKey` — the same for registers of one size
* `exists_text` — a record of the right size has a reading
-/

namespace QuantumBlocks

/-- A reading of registers: one word of bits for each of them, as long as the register, the last
register first, and a blank between every two words. -/
def IsReading (registers : List Nat) (key : String) : Prop :=
  ∃ words : List String, key = String.intercalate " " words ∧
    words.map String.length = registers.reverse ∧
    ∀ word ∈ words, ∀ c ∈ word.toList, c = '0' ∨ c = '1'

/-- A key of `m` registers of `n` bits each: one word of bits for each register, and a blank
between every two words. -/
def IsKey (m n : Nat) (key : String) : Prop :=
  ∃ words : List String, key = String.intercalate " " words ∧ words.length = m ∧
    ∀ word ∈ words, word.length = n ∧ ∀ c ∈ word.toList, c = '0' ∨ c = '1'

/-- What registers of one size read as is a key. -/
theorem IsReading.isKey {m n : Nat} {key : String} (h : IsReading (List.replicate m n) key) :
    IsKey m n key := by
  obtain ⟨words, hkey, hsizes, hbits⟩ := h
  rw [List.reverse_replicate, List.eq_replicate_iff, List.length_map] at hsizes
  obtain ⟨hlen, hsize⟩ := hsizes
  exact ⟨words, hkey, hlen, fun word hw =>
    ⟨hsize _ (List.mem_map_of_mem hw), hbits word hw⟩⟩

namespace Record

/-! ## Writing -/

theorem size_blank (numClbits : Nat) : (blank numClbits).size = numClbits := by
  simp [blank]

theorem exists_write {r : Record} {clbit : Nat} (h : clbit < r.size) (b : Bool) :
    ∃ s, r.write? clbit b = some s ∧ s.size = r.size := by
  rw [write?, dif_pos h]
  exact ⟨_, rfl, by simp⟩

/-! ## Reading -/

theorem exists_slice {r : Record} {start size : Nat} (h : start + size ≤ r.size) :
    ∃ bits, r.slice? start size = some bits ∧ bits.length = size := by
  rw [slice?, if_pos h]
  refine ⟨_, rfl, ?_⟩
  rw [List.length_take, List.length_drop, Array.length_toList]
  omega

theorem length_word (bits : List Bool) : (word bits).length = bits.length := by
  simp [word]

theorem mem_word {bits : List Bool} {c : Char} (h : c ∈ (word bits).toList) :
    c = '0' ∨ c = '1' := by
  simp only [word, String.toList_ofList, List.mem_map] at h
  obtain ⟨b, -, rfl⟩ := h
  cases b
  · exact Or.inl rfl
  · exact Or.inr rfl

theorem exists_words {r : Record} (start : Nat) (sizes : List Nat)
    (h : start + sizes.sum ≤ r.size) :
    ∃ words, r.words? start sizes = some words ∧ words.map String.length = sizes ∧
      ∀ word ∈ words, ∀ c ∈ word.toList, c = '0' ∨ c = '1' := by
  induction sizes generalizing start with
  | nil => exact ⟨[], rfl, rfl, by simp⟩
  | cons size sizes ih =>
    rw [List.sum_cons] at h
    obtain ⟨bits, hbits, hlen⟩ := exists_slice (r := r) (show start + size ≤ r.size by omega)
    obtain ⟨words, hwords, hlens, hall⟩ := ih (start + size) (by omega)
    refine ⟨word bits :: words, ?_, ?_, ?_⟩
    · simp [words?, hbits, hwords]
    · rw [List.map_cons, hlens, length_word, hlen]
    · intro w hw
      rcases List.mem_cons.mp hw with rfl | hw
      · exact fun c hc => mem_word hc
      · exact hall w hw

/-- **A record of the right size has a reading.** -/
theorem exists_text {r : Record} {registers : List Nat} (h : registers.sum = r.size) :
    ∃ key, r.text? registers = some key ∧ IsReading registers key := by
  obtain ⟨words, hwords, hlens, hall⟩ := exists_words (r := r) 0 registers (by omega)
  refine ⟨String.intercalate " " words.reverse, by simp [text?, hwords], words.reverse, rfl, ?_, ?_⟩
  · rw [List.map_reverse, hlens]
  · exact fun w hw => hall w (List.mem_reverse.mp hw)

end Record

end QuantumBlocks
