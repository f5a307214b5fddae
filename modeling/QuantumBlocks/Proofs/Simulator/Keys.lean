import QuantumBlocks.Proofs.Program.Meaning
import QuantumBlocks.Proofs.Simulator.Unshared

/-!
# What the digits of a key say

The key of a shot is written from right to left: the digits of the first register stand rightmost,
and in each register the first bit does. So without its blanks a key is the record in reverse, and
it can be told from the key.

* `keyDigits_of_text` — the digits of a key are the bits of the record
* `getElem?_of_foldlM_write` — a bit of the record is what was written into it last
* `NamesBits` — what the key of a sample says
* `text?_replicate` — registers that were read alike are written alike
* `sampledShot_namesBits` — the keys of shots say just that
-/

namespace QuantumBlocks

/-! ## Digits -/

/-- The characters of a key without the blanks, the last one first. -/
def keyDigits (key : String) : List Char := (key.toList.filter fun c => c ≠ ' ').reverse

theorem filter_intercalate {words : List String} (h : ∀ word ∈ words, ' ' ∉ word.toList) :
    (String.intercalate " " words).toList.filter (fun c => c ≠ ' ')
      = words.flatMap String.toList := by
  have hword : ∀ word ∈ words, word.toList.filter (fun c => c ≠ ' ') = word.toList :=
    fun word hw => List.filter_eq_self.mpr fun c hc => by
      simpa using fun he : c = ' ' => h word hw (he ▸ hc)
  induction words with
  | nil => rfl
  | cons word rest ih =>
    have hfirst := hword word List.mem_cons_self
    cases rest with
    | nil => rw [String.intercalate_singleton, hfirst, List.flatMap_singleton]
    | cons next rest =>
      rw [String.intercalate_cons_cons, String.toList_append, String.toList_append,
        List.filter_append, List.filter_append, hfirst,
        ih (fun w hw => h w (List.mem_cons_of_mem _ hw))
          (fun w hw => hword w (List.mem_cons_of_mem _ hw))]
      simp

/-- The digits of a key are those of its words, each from its end, the last word first. -/
theorem keyDigits_intercalate {words : List String} (h : ∀ word ∈ words, ' ' ∉ word.toList) :
    keyDigits (String.intercalate " " words)
      = words.reverse.flatMap fun word => word.toList.reverse := by
  rw [keyDigits, filter_intercalate h, List.reverse_flatMap]
  rfl

namespace Record

theorem bitChar_injective : Function.Injective bitChar := by
  intro a b h
  cases a <;> cases b <;> simp_all [bitChar]

theorem slice?_eq_some_iff {r : Record} {start size : Nat} {bits : List Bool} :
    r.slice? start size = some bits ↔
      start + size ≤ r.size ∧ (r.toList.drop start).take size = bits := by
  unfold slice?
  split
  · next h => simp [h]
  · next h => simp [h]

theorem reverse_toList_word (bits : List Bool) :
    (word bits).toList.reverse = bits.map bitChar := by
  rw [word, String.toList_ofList, List.map_reverse, List.reverse_reverse]

/-- The words of registers in a row have the bits of the record from the start of the first. -/
theorem flatMap_words {r : Record} {start : Nat} {sizes : List Nat} {words : List String}
    (h : r.words? start sizes = some words) :
    words.flatMap (fun word => word.toList.reverse)
      = ((r.toList.drop start).take sizes.sum).map bitChar := by
  induction sizes generalizing start words with
  | nil =>
    rw [words?, Option.some.injEq] at h
    simp [← h]
  | cons size sizes ih =>
    obtain ⟨bits, hbits, h⟩ := Option.bind_eq_some_iff.mp h
    obtain ⟨rest, hrest, h⟩ := Option.bind_eq_some_iff.mp h
    rw [← Option.some.inj h, List.flatMap_cons, reverse_toList_word, ih hrest, List.sum_cons,
      List.take_add, List.map_append, List.drop_drop, (slice?_eq_some_iff.mp hbits).2]

/-- **The digits of a key are the bits of the record**, the first bit rightmost. -/
theorem keyDigits_of_text {r : Record} {registers : List Nat} {key : String}
    (hsize : registers.sum = r.size) (h : r.text? registers = some key) :
    keyDigits key = r.toList.map bitChar := by
  obtain ⟨words, hwords, -, hbits⟩ := exists_words (r := r) 0 registers (by omega)
  have hblank : ∀ word ∈ words.reverse, ' ' ∉ word.toList := by
    intro word hw hc
    rcases hbits word (List.mem_reverse.mp hw) ' ' hc with hc | hc
    · exact absurd hc (by decide)
    · exact absurd hc (by decide)
  have hkey : String.intercalate " " words.reverse = key := by
    rw [text?, hwords, Option.map_some, Option.some.injEq] at h
    exact h
  rw [← hkey, keyDigits_intercalate hblank, List.reverse_reverse, flatMap_words hwords,
    List.drop_zero, hsize, ← Array.length_toList, List.take_length]

/-- **Two records never share a key.** -/
theorem eq_of_text_eq {r s : Record} {registers : List Nat} {key : String}
    (hr : registers.sum = r.size) (hs : registers.sum = s.size)
    (hrkey : r.text? registers = some key) (hskey : s.text? registers = some key) : r = s := by
  have hbits : r.toList.map bitChar = s.toList.map bitChar := by
    rw [← keyDigits_of_text hr hrkey, ← keyDigits_of_text hs hskey]
  exact Array.toList_inj.mp (bitChar_injective.list_map hbits)

end Record

/-! ## Writing -/

/-- The qubit of the last of the pairs that writes a bit. -/
def lastRead? (pairs : List (Nat × Nat)) (clbit : Nat) : Option Nat :=
  (pairs.filter fun pair => pair.2 = clbit).getLast?.map Prod.fst

theorem lastRead?_concat (pairs : List (Nat × Nat)) (pair : Nat × Nat) (clbit : Nat) :
    lastRead? (pairs ++ [pair]) clbit
      = if pair.2 = clbit then some pair.1 else lastRead? pairs clbit := by
  unfold lastRead?
  by_cases h : pair.2 = clbit
  · simp [h]
  · simp [h]

/-- The qubit that was read last into a bit was read into it. -/
theorem mem_of_lastRead? {pairs : List (Nat × Nat)} {clbit q : Nat}
    (h : lastRead? pairs clbit = some q) : (q, clbit) ∈ pairs := by
  obtain ⟨pair, hpair, rfl⟩ := Option.map_eq_some_iff.mp h
  obtain ⟨hmem, hclbit⟩ := List.mem_filter.mp (List.mem_of_getLast? hpair)
  rw [← of_decide_eq_true hclbit]
  exact hmem

/-- **A bit is what was written into it last**, or what it was if nothing was. -/
theorem getElem?_of_foldlM_write (bit : Nat → Bool) {pairs : List (Nat × Nat)} {r s : Record}
    (h : pairs.foldlM (fun r pair => r.write? pair.2 (bit pair.1)) r = some s) (clbit : Nat) :
    s[clbit]? = match lastRead? pairs clbit with
      | some q => some (bit q)
      | none => r[clbit]? := by
  -- The last write decides, so the last pair is the one that is taken off.
  induction pairs using List.reverseRecOn generalizing s with
  | nil =>
    rw [List.foldlM_nil] at h
    rw [Option.some.inj h]
    rfl
  | append_singleton pairs pair ih =>
    rw [List.foldlM_append] at h
    obtain ⟨t, ht, h⟩ := Option.bind_eq_some_iff.mp h
    have hset : ∃ hlt : pair.2 < t.size, t.set pair.2 (bit pair.1) hlt = s := by
      simpa [Record.write?] using h
    obtain ⟨hlt, rfl⟩ := hset
    rw [Array.getElem?_set, lastRead?_concat]
    by_cases hp : pair.2 = clbit
    · rw [if_pos hp, if_pos hp]
    · rw [if_neg hp, if_neg hp]
      exact ih ht

namespace Circuit

/-- The pairs of a qubit and the bit it is read into, of all measurements in their order. -/
def measuredPairs (c : Circuit) : List (Nat × Nat) :=
  (c.instructions.filter Instruction.isMeasure).flatMap Instruction.targets

/-- Reading a sample instruction by instruction is reading it pair by pair. -/
theorem foldlM_readSample (sample : Nat) (is : List Instruction) (r : Record) :
    is.foldlM (readSample sample) r = (is.flatMap Instruction.targets).foldlM
      (fun r pair => r.write? pair.2 (hasWordBit pair.1 sample)) r := by
  induction is generalizing r with
  | nil => rfl
  | cons i rest ih =>
    rw [List.foldlM_cons, List.flatMap_cons, List.foldlM_append]
    exact bind_congr fun s => ih s

/-- What the key of a sample says. It is a reading of the registers, with blanks between their
words only; and each of its digits, counted from the right, is the bit of the qubit that was read
last into the classical bit of that number, or `0` if none was. -/
structure NamesBits (c : Circuit) (sample : Nat) (key : String) : Prop where
  isReading : IsReading c.registers key
  length_eq : (keyDigits key).length = c.numClbits
  of_read : ∀ clbit q, clbit < c.numClbits → lastRead? c.measuredPairs clbit = some q →
    (keyDigits key)[clbit]? = some (if hasBit q sample then '1' else '0')
  of_unread : ∀ clbit, clbit < c.numClbits → lastRead? c.measuredPairs clbit = none →
    (keyDigits key)[clbit]? = some '0'

/-- The qubits that are read are those of the circuit. -/
theorem WellFormed.lt_of_lastRead? {c : Circuit} (h : c.WellFormed) {clbit q : Nat}
    (hread : lastRead? c.measuredPairs clbit = some q) : q < c.numQubits := by
  obtain ⟨i, hi, hpair⟩ := List.mem_flatMap.mp (mem_of_lastRead? hread)
  exact (h.fits i (List.mem_filter.mp hi).1).qubits_lt q (List.of_mem_zip hpair).1

/-- What a shot with terminal measurements writes into its record. -/
theorem WellFormed.exists_readSamples_of_terminal {c : Circuit} (h : c.WellFormed)
    (hterm : c.measurementsAreTerminal = true) (sample : Nat) :
    ∃ r, c.measuredTail.foldlM (readSample sample) (.blank c.numClbits) = some r ∧
      r.size = c.numClbits ∧ ∀ clbit, clbit < c.numClbits →
        r[clbit]? = some ((lastRead? c.measuredPairs clbit).any fun q => hasWordBit q sample) := by
  obtain ⟨r, hr, hsize⟩ := exists_readSamples h.fits_measuredTail sample
  refine ⟨r, hr, hsize, fun clbit hclbit => ?_⟩
  rw [foldlM_readSample, ← filter_measurements_of_terminal hterm] at hr
  rw [getElem?_of_foldlM_write (fun q => hasWordBit q sample) hr clbit, measuredPairs]
  cases lastRead? ((c.instructions.filter Instruction.isMeasure).flatMap Instruction.targets)
      clbit with
  | none => simp [Record.blank, hclbit]
  | some q => rfl

theorem sampledShot_of_record {c : Circuit} {s : Statevector} {g : Generator} {r : Record}
    {key : String}
    (hr : c.measuredTail.foldlM (readSample (s.sample g.nextUniform.1)) (.blank c.numClbits)
      = some r) (hkey : r.text? c.registers = some key) :
    c.sampledShot s g = some (key, g.nextUniform.2) := by
  simp only [sampledShot, hr]
  simp [hkey]

/-- The digits of the key of a sample, whatever the number of qubits. -/
theorem WellFormed.exists_key_of_sample {c : Circuit} (h : c.WellFormed)
    (hterm : c.measurementsAreTerminal = true) (sample : Nat) :
    ∃ r key, c.measuredTail.foldlM (readSample sample) (.blank c.numClbits) = some r ∧
      r.text? c.registers = some key ∧ IsReading c.registers key ∧
      (keyDigits key).length = c.numClbits ∧
      ∀ clbit, clbit < c.numClbits → (keyDigits key)[clbit]? = some (Record.bitChar
        ((lastRead? c.measuredPairs clbit).any fun q => hasWordBit q sample)) := by
  obtain ⟨r, hr, hsize, hbits⟩ := h.exists_readSamples_of_terminal hterm sample
  obtain ⟨key, hkey, hreading⟩ := h.exists_text hsize
  have hdigits : keyDigits key = r.toList.map Record.bitChar :=
    Record.keyDigits_of_text (h.sum_registers.trans hsize.symm) hkey
  refine ⟨r, key, hr, hkey, hreading, ?_, fun clbit hclbit => ?_⟩
  · rw [hdigits, List.length_map, Array.length_toList, hsize]
  · rw [hdigits, List.getElem?_map, Array.getElem?_toList, hbits clbit hclbit, Option.map_some]

theorem WellFormed.exists_sampledShot {c : Circuit} (h : c.WellFormed)
    (hqubits : c.numQubits ≤ 63) (hterm : c.measurementsAreTerminal = true) (s : Statevector)
    (g : Generator) :
    ∃ key, c.sampledShot s g = some (key, g.nextUniform.2) ∧
      c.NamesBits (s.sample g.nextUniform.1) key := by
  obtain ⟨r, key, hr, hkey, hreading, hlength, hdigit⟩ :=
    h.exists_key_of_sample hterm (s.sample g.nextUniform.1)
  refine ⟨key, sampledShot_of_record hr hkey, hreading, hlength, ?_, ?_⟩
  · intro clbit q hclbit hread
    -- The qubits have places in a word, so their bits are those of the sample.
    have hplace : q < 64 := Nat.lt_of_lt_of_le (h.lt_of_lastRead? hread) (by omega)
    rw [hdigit clbit hclbit, hread, Option.any_some, hasWordBit_of_lt hplace]
    rfl
  · intro clbit hclbit hread
    rw [hdigit clbit hclbit, hread]
    rfl

end Circuit

/-! ## Binary numerals -/

/-- The binary numeral of a number with `n` digits, if it has no more. -/
def binaryNumeral (n k : Nat) : String := .ofList ((Nat.toDigits 2 k).leftpad n '0')

theorem leftpad_toDigits_succ {n : Nat} (hn : 0 < n) (k : Nat) :
    (Nat.toDigits 2 k).leftpad (n + 1) '0'
      = (Nat.toDigits 2 (k / 2)).leftpad n '0' ++ [Record.bitChar (hasBit 0 k)] := by
  have hdigit : (k % 2).digitChar = Record.bitChar (hasBit 0 k) := by
    rw [hasBit, Nat.testBit_zero]
    rcases Nat.mod_two_eq_zero_or_one k with h | h <;> rw [h] <;> rfl
  rw [← hdigit]
  by_cases hk : 2 ≤ k
  · rw [Nat.toDigits_of_base_le (by decide) hk]
    simp [List.leftpad]
  · have hlt : k < 2 := by omega
    have hzero : k / 2 = 0 := by omega
    obtain ⟨m, rfl⟩ : ∃ m, n = m + 1 := ⟨n - 1, by omega⟩
    rw [hzero, Nat.toDigits_of_lt_base hlt, Nat.mod_eq_of_lt hlt]
    simp [List.leftpad, List.replicate_succ']

/-- **The digits of a numeral are the bits of the number**, the first bit rightmost. -/
theorem binaryNumeral_eq_word {n k : Nat} (hn : 0 < n) (hk : k < 2 ^ n) :
    binaryNumeral n k = Record.word ((List.range n).map fun q => hasBit q k) := by
  obtain ⟨m, rfl⟩ : ∃ m, n = m + 1 := ⟨n - 1, by omega⟩
  rw [binaryNumeral, Record.word]
  congr 1
  clear hn
  induction m generalizing k with
  | zero =>
    have hcases : k = 0 ∨ k = 1 := by omega
    rcases hcases with rfl | rfl <;> rfl
  | succ m ih =>
    have hhalf : k / 2 < 2 ^ (m + 1) := by omega
    have hshift : ∀ q, hasBit (q + 1) k = hasBit q (k / 2) := fun q => Nat.testBit_succ k q
    rw [leftpad_toDigits_succ (by omega), ih hhalf, List.range_succ_eq_map (n := m + 1)]
    simp [hshift, Function.comp_def]

/-! ## Registers that were read alike -/

theorem Record.words?_replicate {r : Record} {bits : List Bool} {n : Nat} (m start : Nat)
    (h : ∀ j, j < m → r.slice? (start + j * n) n = some bits) :
    r.words? start (List.replicate m n) = some (List.replicate m (word bits)) := by
  induction m generalizing start with
  | zero => rfl
  | succ m ih =>
    have hfirst : r.slice? start n = some bits := by
      simpa using h 0 (by omega)
    have hrest : r.words? (start + n) (List.replicate m n)
        = some (List.replicate m (word bits)) := by
      refine ih (start + n) fun j hj => ?_
      rw [← h (j + 1) (by omega), Nat.add_mul, Nat.one_mul, Nat.add_assoc, Nat.add_comm n]
    rw [List.replicate_succ, List.replicate_succ, words?, hfirst]
    simp [hrest]

/-- **Registers that were read alike are written alike.** -/
theorem Record.text?_replicate {r : Record} {bits : List Bool} {m n : Nat}
    (h : ∀ j, j < m → r.slice? (j * n) n = some bits) :
    r.text? (List.replicate m n)
      = some (String.intercalate " " (List.replicate m (word bits))) := by
  rw [text?, words?_replicate m 0 (by simpa using h), Option.map_some, List.reverse_replicate]

/-! ## Keys of programs -/

/-- The measurement of all qubits reads them one after the other. -/
theorem targets_measurementInto (n k : Nat) :
    (measurementInto n k).targets
      = (List.range' (k * n) n).map fun clbit => (clbit % n, clbit) := by
  have hzip : (measurementInto n k).targets = (List.range n).map fun i => (i, k * n + i) := by
    have hqubits : (List.range n).map id = List.range n := List.map_id _
    rw [Instruction.targets, measurementInto]
    dsimp only
    nth_rewrite 1 [← hqubits]
    exact List.zip_map' ..
  rw [hzip, List.range'_eq_map_range, List.map_map]
  refine List.map_congr_left fun i hi => ?_
  rw [Function.comp_apply, Nat.mul_add_mod', Nat.mod_eq_of_lt (List.mem_range.mp hi)]

/-- The measurements of a segment read the qubits in turn, each bit once. -/
theorem targets_instructionsOf (n k : Nat) (segment : List Block) :
    ((instructionsOf n k segment).filter Instruction.isMeasure).flatMap Instruction.targets
      = (List.range' (k * n) (measurements segment * n)).map fun clbit => (clbit % n, clbit) := by
  induction segment generalizing k with
  | nil => simp [instructionsOf, measurements]
  | cons b rest ih =>
    cases b with
    | createCircuit numQubits =>
      rw [instructionsOf, ih, measurements, measurements, List.count_cons_of_ne (by simp)]
    | gate g =>
      have hgate : ¬g.instruction.isMeasure = true := by
        simp [GateBlock.instruction, Instruction.gate, Instruction.isMeasure]
      rw [instructionsOf, List.filter_cons_of_neg hgate, ih, measurements, measurements,
        List.count_cons_of_ne (by simp)]
    | measureAll =>
      have hmeasure : (measurementInto n k).isMeasure = true := rfl
      have hrange : List.range' (k * n) n ++ List.range' ((k + 1) * n) (measurements rest * n)
          = List.range' (k * n) ((measurements rest + 1) * n) := by
        rw [Nat.add_mul, Nat.add_mul, Nat.one_mul, Nat.add_comm (measurements rest * n),
          List.range'_append_1]
      rw [instructionsOf, List.filter_cons_of_pos hmeasure, List.flatMap_cons,
        targets_measurementInto, ih, ← List.map_append, hrange, measurements, measurements,
        List.count_cons_self]
    | unrecognized opcode =>
      rw [instructionsOf, ih, measurements, measurements, List.count_cons_of_ne (by simp)]

theorem lastRead?_map_range {f : Nat → Nat} {size clbit : Nat} (h : clbit < size) :
    lastRead? ((List.range size).map fun clbit => (f clbit, clbit)) clbit = some (f clbit) := by
  induction size with
  | zero => omega
  | succ size ih =>
    rw [List.range_succ, List.map_append, List.map_singleton, lastRead?_concat]
    by_cases he : size = clbit
    · rw [if_pos he, he]
    · rw [if_neg he, ih (by omega)]

theorem lastRead?_segmentCircuit {n clbit : Nat} {segment : List Block}
    (h : clbit < measurements segment * n) :
    lastRead? (segmentCircuit n segment).measuredPairs clbit = some (clbit % n) := by
  have hpairs : (segmentCircuit n segment).measuredPairs
      = (List.range (measurements segment * n)).map fun clbit => (clbit % n, clbit) := by
    have htargets := targets_instructionsOf n 0 segment
    rw [Nat.zero_mul, ← List.range_eq_range'] at htargets
    exact htargets
  rw [hpairs, lastRead?_map_range h]

/-- Every register of a record that takes the bits of a number in turn holds its first bits. -/
theorem Record.slice?_of_bits {r : Record} {sample m n : Nat} (hsize : r.size = m * n)
    (hbits : ∀ clbit, clbit < m * n → r[clbit]? = some (hasBit (clbit % n) sample)) {j : Nat}
    (hj : j < m) : r.slice? (j * n) n = some ((List.range n).map fun q => hasBit q sample) := by
  have hend : j * n + n ≤ m * n := by
    rw [← Nat.succ_mul]
    exact Nat.mul_le_mul_right n hj
  refine slice?_eq_some_iff.mpr ⟨by omega, List.ext_getElem? fun q => ?_⟩
  by_cases hq : q < n
  · rw [List.getElem?_take_of_lt hq, List.getElem?_drop, Array.getElem?_toList,
      hbits _ (by omega), Nat.mul_add_mod', Nat.mod_eq_of_lt hq]
    simp [hq]
  · rw [List.getElem?_eq_none (by simp; omega), List.getElem?_eq_none (by simp; omega)]

/-- The key of a program is one numeral, written as often as all qubits are measured. -/
theorem sampledShot_of_compile {p : List Block} {c : Circuit} (hc : compile p = .ok (some c))
    (hqubits : c.numQubits ≤ 63) (hterm : c.measurementsAreTerminal = true) {s : Statevector}
    (hs : s.OfQubits c.numQubits) (g : Generator) :
    c.sampledShot s g = some (String.intercalate " " (List.replicate (measurements (lastSegment p))
      (binaryNumeral c.numQubits (s.sample g.nextUniform.1))), g.nextUniform.2) := by
  have hwell : c.WellFormed := (reachable_of_compile hc).wellFormed
  obtain ⟨r, hr, hsize, hbits⟩ :=
    hwell.exists_readSamples_of_terminal hterm (s.sample g.nextUniform.1)
  obtain ⟨hplaced, n, hn, rfl⟩ := compile_eq_some_iff.mp hc
  have hpos : 0 < n := by
    have := hplaced.one_le hn
    omega
  have hturn : ∀ clbit, clbit < measurements (lastSegment p) * n →
      r[clbit]? = some (hasBit (clbit % n) (s.sample g.nextUniform.1)) := by
    intro clbit hclbit
    have hplace : clbit % n < 64 :=
      Nat.lt_of_lt_of_le (Nat.mod_lt _ hpos) (Nat.le_succ_of_le hqubits)
    rw [hbits clbit hclbit, lastRead?_segmentCircuit hclbit, Option.any_some,
      hasWordBit_of_lt hplace]
  refine Circuit.sampledShot_of_record hr ?_
  show r.text? (List.replicate (measurements (lastSegment p)) n)
    = some (String.intercalate " " (List.replicate _ (binaryNumeral n _)))
  rw [binaryNumeral_eq_word hpos (Statevector.sample_lt hs _)]
  exact Record.text?_replicate fun j hj => Record.slice?_of_bits hsize hturn hj

namespace Circuit

/-- **The key of a shot names the measured bits.** With terminal measurements of qubits that have
places in a word, the key of a shot says of the sampled index what the measurements read of it; no
two records share a key; and the key of a program is the numeral of the sampled index, once for each
measurement of all qubits. -/
theorem sampledShot_namesBits {c : Circuit} (h : c.WellFormed) (hqubits : c.numQubits ≤ 63)
    (hterm : c.measurementsAreTerminal = true) :
    (∀ s g, ∃ key, c.sampledShot s g = some (key, g.nextUniform.2) ∧
      c.NamesBits (s.sample g.nextUniform.1) key) ∧
    (∀ (r s : Record) (key : String), r.size = c.numClbits → s.size = c.numClbits →
      r.text? c.registers = some key → s.text? c.registers = some key → r = s) ∧
    ∀ p, compile p = .ok (some c) → ∀ s : Statevector, s.OfQubits c.numQubits → ∀ g,
      c.sampledShot s g = some (String.intercalate " "
        (List.replicate (measurements (lastSegment p))
          (binaryNumeral c.numQubits (s.sample g.nextUniform.1))), g.nextUniform.2) := by
  refine ⟨h.exists_sampledShot hqubits hterm, ?_, ?_⟩
  · intro r s key hr hs hrkey hskey
    exact Record.eq_of_text_eq (h.sum_registers.trans hr.symm) (h.sum_registers.trans hs.symm)
      hrkey hskey
  · intro p hc s hs g
    exact sampledShot_of_compile hc hqubits hterm hs g

/-- A circuit with an empty register, a bit that is written twice and two that are never written,
and a program that measures two qubits twice. -/
theorem sampledShot_namesBits_overwritten :
    let c := [Operation.addRegister 0, .addRegister 1, .applyGate .x [1], .measure 0 0,
      .measure 1 0].foldl perform (withSize "pair" 2 2)
    let p : List Block := [.createCircuit 2, .gate (.x 1), .measureAll, .measureAll]
    let g := Generator.ofSeed 7
    let sample := (Statevector.init 2).sample g.nextUniform.1
    c.WellFormed ∧ c.numQubits ≤ 63 ∧ c.measurementsAreTerminal = true ∧ c.registers = [2, 0, 1] ∧
      (∃ key, c.sampledShot (.init 2) g = some (key, g.nextUniform.2) ∧
        IsReading [2, 0, 1] key ∧
        (keyDigits key)[0]? = some (if hasBit 1 sample then '1' else '0') ∧
        (keyDigits key)[1]? = some '0' ∧ (keyDigits key)[2]? = some '0') ∧
      ∃ d, compile p = .ok (some d) ∧ d.sampledShot (.init 2) g = some
        (String.intercalate " " [binaryNumeral 2 sample, binaryNumeral 2 sample],
          g.nextUniform.2) := by
  intro c p g sample
  have hwell : c.WellFormed := ((Reachable.create "pair" 2 2).foldl _).wellFormed
  have hqubits : c.numQubits ≤ 63 := by decide
  have hterm : c.measurementsAreTerminal = true := by decide
  obtain ⟨key, hkey, hnames⟩ := (sampledShot_namesBits hwell hqubits hterm).1 (.init 2) g
  have hp : compile p = .ok (some (segmentCircuit 2 [.gate (.x 1), .measureAll, .measureAll])) :=
    rfl
  refine ⟨hwell, hqubits, hterm, by decide, ⟨key, hkey, hnames.isReading, ?_, ?_, ?_⟩, _, hp, ?_⟩
  · exact hnames.of_read 0 1 (by decide) (by decide)
  · exact hnames.of_unread 1 (by decide) (by decide)
  · exact hnames.of_unread 2 (by decide) (by decide)
  · exact (sampledShot_namesBits (reachable_of_compile hp).wellFormed (by decide)
      (by decide)).2.2 p hp _ (Statevector.ofQubits_init 2) g

/-- With more qubits than a word has places the key is another one. The index 1 has its first bit
alone, and of 65 qubits the last one is written with that bit. -/
theorem sampledShot_misnames_last_qubit :
    let c := [Operation.applyGate .x [0], .measureAll].foldl perform (withSize "wide" 65 0)
    c.WellFormed ∧ c.measurementsAreTerminal = true ∧
      ∃ r key, c.measuredTail.foldlM (readSample 1) (.blank c.numClbits) = some r ∧
        r.text? c.registers = some key ∧ (keyDigits key)[64]? = some '1' ∧
        Nat.testBit 1 64 = false ∧ ¬c.NamesBits 1 key ∧
        ∀ s g, s.sample g.nextUniform.1 = 1 → c.sampledShot s g = some (key, g.nextUniform.2) := by
  intro c
  have hwell : c.WellFormed := ((Reachable.create "wide" 65 0).foldl _).wellFormed
  have hterm : c.measurementsAreTerminal = true := by decide
  have hbit : 64 < c.numClbits := by decide
  have hread : lastRead? c.measuredPairs 64 = some 64 := by decide
  obtain ⟨r, key, hr, hkey, -, -, hdigit⟩ := hwell.exists_key_of_sample hterm 1
  have hone : (keyDigits key)[64]? = some '1' := by
    rw [hdigit 64 hbit, hread]
    rfl
  refine ⟨hwell, hterm, r, key, hr, hkey, hone, by decide, fun hnames => ?_, fun s g hs => ?_⟩
  · have hzero : (keyDigits key)[64]? = some '0' := hnames.of_read 64 64 hbit hread
    rw [hone] at hzero
    exact absurd hzero (by decide)
  · refine sampledShot_of_record (r := r) ?_ hkey
    rw [hs]
    exact hr

end Circuit

end QuantumBlocks
