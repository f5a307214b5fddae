import QuantumBlocks.Simulator.Statevector
import Mathlib.Data.Nat.Bitwise
import Mathlib.Logic.Function.Basic

/-!
# Gates entry by entry

A gate works in place: it goes through the indices, and at the lower index of a pair it replaces
both entries of the pair. Since a pair is met at its lower index only, no entry is read after it
was replaced. So what a gate leaves at an index depends on the entries before the gate alone.

* `sweep_table` — a sweep over the pairs of a qubit, entry by entry
* `Gate.entryAfter` — what each gate leaves at an index
* `applyGate_table` — each gate leaves just that
* `exists_apply_entryAfter` — the same for a state, whatever its entries are

A vector is here the table of a function, so that the entries before a gate have a name. The
invariant of a sweep says at index `i` that the pairs below `i` are done and the others untouched.
-/

namespace QuantumBlocks

variable {α : Type}

/-! ## Indices -/

/-- The index with bit `q` turned over. -/
def flipBit (q i : Nat) : Nat := i ^^^ 2 ^ q

theorem hasBit_flipBit_self (q i : Nat) : hasBit q (flipBit q i) = !hasBit q i := by
  rw [hasBit, flipBit, Nat.testBit_xor, Nat.testBit_two_pow_self, Bool.xor_true]
  rfl

theorem hasBit_flipBit_of_ne {p q : Nat} (h : q ≠ p) (i : Nat) :
    hasBit p (flipBit q i) = hasBit p i := by
  rw [hasBit, flipBit, Nat.testBit_xor, Nat.testBit_two_pow_of_ne h, Bool.xor_false]
  rfl

theorem flipBit_flipBit (q i : Nat) : flipBit q (flipBit q i) = i := by
  rw [flipBit, flipBit, Nat.xor_assoc, Nat.xor_self, Nat.xor_zero]

theorem flipBit_lt {q n i : Nat} (hq : q < n) (hi : i < 2 ^ n) : flipBit q i < 2 ^ n :=
  Nat.xor_lt_two_pow hi (Nat.pow_lt_pow_right (by decide) hq)

/-- Where a bit is clear, setting it is turning it over. -/
theorem withBit_eq_flipBit {q i : Nat} (h : hasBit q i = false) : withBit q i = flipBit q i := by
  refine Nat.eq_of_testBit_eq fun p => ?_
  rw [withBit, flipBit, Nat.one_shiftLeft, Nat.testBit_or, Nat.testBit_xor]
  by_cases hp : q = p
  · rw [← hp, show i.testBit q = false from h, Bool.false_or, Bool.false_xor]
  · rw [Nat.testBit_two_pow_of_ne hp, Bool.or_false, Bool.xor_false]

/-- The index of the pair of `i` at which bit `q` is clear. -/
def lowerIndex (q i : Nat) : Nat := if hasBit q i then flipBit q i else i

theorem lowerIndex_lt {q n i : Nat} (hq : q < n) (hi : i < 2 ^ n) : lowerIndex q i < 2 ^ n := by
  unfold lowerIndex
  split
  · exact flipBit_lt hq hi
  · exact hi

/-- The pair of a lower index is that index and its partner. -/
theorem lowerIndex_eq_iff {q i k : Nat} (hi : hasBit q i = false) :
    lowerIndex q k = i ↔ k = i ∨ k = flipBit q i := by
  unfold lowerIndex
  constructor
  · intro h
    split at h
    · rw [← h, flipBit_flipBit]
      exact Or.inr rfl
    · exact Or.inl h
  · rintro (rfl | rfl)
    · rw [hi]
      rfl
    · rw [hasBit_flipBit_self, hi, flipBit_flipBit]
      rfl

/-! ## Tables -/

/-- The vector whose entry at `k` is `old k`, for all values of `n` qubits. -/
def table (n : Nat) (old : Nat → α) : Array α := Array.ofFn fun k : Fin (2 ^ n) => old k

theorem size_table (n : Nat) (old : Nat → α) : (table n old).size = 2 ^ n := by
  simp [table]

theorem getElem?_table {n k : Nat} (old : Nat → α) (hk : k < 2 ^ n) :
    (table n old)[k]? = some (old k) := by
  simp [table, hk]

theorem table_congr {n : Nat} {a b : Nat → α} (h : ∀ k, k < 2 ^ n → a k = b k) :
    table n a = table n b := by
  unfold table
  congr 1
  funext k
  exact h k k.isLt

/-- A vector is the table of any function that has its entries. -/
theorem eq_table {n : Nat} {v : Array α} {old : Nat → α} (hv : v.size = 2 ^ n)
    (hold : ∀ k, k < 2 ^ n → v[k]? = some (old k)) : v = table n old := by
  refine Array.ext_getElem? fun k => ?_
  by_cases hk : k < 2 ^ n
  · rw [hold k hk, getElem?_table old hk]
  · rw [Array.getElem?_eq_none (by omega), Array.getElem?_eq_none (by rw [size_table]; omega)]

/-- Every vector of the right size is the table of its entries. -/
theorem exists_eq_table [Inhabited α] {n : Nat} {v : Array α} (hv : v.size = 2 ^ n) :
    ∃ old, v = table n old := by
  refine ⟨fun k => v[k]!, eq_table hv fun k hk => ?_⟩
  have hlt : k < v.size := by omega
  rw [getElem!_pos v k hlt, Array.getElem?_eq_getElem hlt]

theorem updatePair_table {f : α → α → α × α} {n i j : Nat} (old : Nat → α) (hi : i < 2 ^ n)
    (hj : j < 2 ^ n) :
    updatePair f (table n old) i j = some (table n
      (Function.update (Function.update old i (f (old i) (old j)).1) j (f (old i) (old j)).2)) := by
  have hsize : i < (table n old).size ∧ j < (table n old).size := by
    rw [size_table]
    exact ⟨hi, hj⟩
  have hget : ∀ k (h : k < (table n old).size), (table n old)[k] = old k := by simp [table]
  rw [updatePair, dif_pos hsize, Option.some.injEq]
  refine eq_table (by simp [size_table]) fun k hk => ?_
  -- The second write decides at `j`, else the first one at `i`.
  rw [Array.getElem?_set, Array.getElem?_set, getElem?_table old hk, hget, hget]
  by_cases hkj : j = k
  · rw [if_pos hkj, ← hkj, Function.update_self]
  · rw [if_neg hkj, Function.update_of_ne (Ne.symm hkj)]
    by_cases hki : i = k
    · rw [if_pos hki, ← hki, Function.update_self]
    · rw [if_neg hki, Function.update_of_ne (Ne.symm hki)]

/-! ## Sweeps -/

section Sweeps

variable (chosen : Nat → Bool) (q : Nat) (f : α → α → α × α) (old : Nat → α)

/-- What a sweep over the chosen pairs of bit `q` leaves at index `k`. -/
def sweptEntry (k : Nat) : α :=
  if hasBit q k then
    if chosen (flipBit q k) then (f (old (flipBit q k)) (old k)).2 else old k
  else if chosen k then (f (old k) (old (flipBit q k))).1 else old k

/-- The entry at index `k` when the sweep has come to index `i`. -/
def sweptBelow (i k : Nat) : α :=
  if lowerIndex q k < i then sweptEntry chosen q f old k else old k

variable {chosen q f old}

/-- At an index that is not chosen the sweep has nothing to do. -/
theorem sweptBelow_succ_of_not_chosen {i : Nat} (h : chosen i = false) :
    sweptBelow chosen q f old (i + 1) = sweptBelow chosen q f old i := by
  funext k
  unfold sweptBelow
  rcases Nat.lt_trichotomy (lowerIndex q k) i with hlt | heq | hgt
  · rw [if_pos (by omega), if_pos hlt]
  · rw [if_pos (by omega), if_neg (by omega)]
    -- The pair of `i` is passed, but nothing was replaced in it.
    unfold sweptEntry
    by_cases hk : hasBit q k
    · rw [lowerIndex, if_pos hk] at heq
      rw [if_pos hk, heq, h, if_neg (by decide)]
    · rw [lowerIndex, if_neg hk] at heq
      rw [if_neg hk, heq, h, if_neg (by decide)]
  · rw [if_neg (by omega), if_neg (by omega)]

/-- At a chosen index the sweep replaces both entries of the pair, which are still the old ones. -/
theorem sweptBelow_succ_of_chosen {i : Nat} (hbit : hasBit q i = false) (h : chosen i = true) :
    sweptBelow chosen q f old (i + 1) = Function.update
      (Function.update (sweptBelow chosen q f old i) i (f (old i) (old (flipBit q i))).1)
      (flipBit q i) (f (old i) (old (flipBit q i))).2 := by
  funext k
  by_cases hpartner : k = flipBit q i
  · have hk : hasBit q k = true := by rw [hpartner, hasBit_flipBit_self, hbit, Bool.not_false]
    have hlower : lowerIndex q k = i := (lowerIndex_eq_iff hbit).mpr (Or.inr hpartner)
    rw [hpartner, Function.update_self, ← hpartner, sweptBelow, hlower, if_pos (by omega),
      sweptEntry, hpartner, flipBit_flipBit, if_pos (by rw [← hpartner]; exact hk), if_pos h]
  · rw [Function.update_of_ne hpartner]
    by_cases hself : k = i
    · have hlower : lowerIndex q k = i := (lowerIndex_eq_iff hbit).mpr (Or.inl hself)
      rw [sweptBelow, hlower, if_pos (by omega), hself, Function.update_self, sweptEntry, hbit,
        if_neg (by decide), if_pos h]
    · have hlower : lowerIndex q k ≠ i := fun he =>
        ((lowerIndex_eq_iff hbit).mp he).elim hself hpartner
      rw [Function.update_of_ne hself, sweptBelow, sweptBelow]
      congr 1
      exact propext ⟨fun _ => by omega, fun _ => by omega⟩

/-- Neither entry of the pair at which the sweep stands was replaced before. -/
theorem sweptBelow_of_lowerIndex_eq {i k : Nat} (h : lowerIndex q k = i) :
    sweptBelow chosen q f old i k = old k := by
  rw [sweptBelow, if_neg (by omega)]

/-- **Every index is one step of the invariant**: below it the entries are the swept ones, from it
on they are the old ones. -/
theorem sweepFrom_table {n : Nat} (hq : q < n) (hchosen : ∀ i, chosen i → hasBit q i = false)
    (count i : Nat) (hcount : i + count ≤ 2 ^ n) :
    sweepFrom chosen (withBit q) f count i (table n (sweptBelow chosen q f old i))
      = some (table n (sweptBelow chosen q f old (i + count))) := by
  induction count generalizing i with
  | zero => rfl
  | succ count ih =>
    have hi : i < 2 ^ n := by omega
    have hrest : i + 1 + count = i + (count + 1) := by omega
    unfold sweepFrom
    cases h : chosen i with
    | false =>
      rw [if_neg (by decide), ← sweptBelow_succ_of_not_chosen h, ih (i + 1) (by omega), hrest]
    | true =>
      -- The bit of `i` is clear, so its pair is met here and nowhere else.
      have hbit : hasBit q i = false := hchosen i h
      have hself : sweptBelow chosen q f old i i = old i :=
        sweptBelow_of_lowerIndex_eq ((lowerIndex_eq_iff hbit).mpr (Or.inl rfl))
      have hpartner : sweptBelow chosen q f old i (flipBit q i) = old (flipBit q i) :=
        sweptBelow_of_lowerIndex_eq ((lowerIndex_eq_iff hbit).mpr (Or.inr rfl))
      rw [if_pos rfl, withBit_eq_flipBit hbit, updatePair_table _ hi (flipBit_lt hq hi), hself,
        hpartner, ← sweptBelow_succ_of_chosen hbit h]
      show sweepFrom chosen (withBit q) f count (i + 1) _ = _
      rw [ih (i + 1) (by omega), hrest]

/-- **A sweep over the pairs of a qubit, entry by entry.** -/
theorem sweep_table {n : Nat} (hq : q < n) (hchosen : ∀ i, chosen i → hasBit q i = false) :
    sweep chosen (withBit q) f (table n old)
      = some (table n (sweptEntry chosen q f old)) := by
  have hstart : table n old = table n (sweptBelow chosen q f old 0) :=
    table_congr fun k _ => by rw [sweptBelow, if_neg (by omega)]
  have hend : table n (sweptBelow chosen q f old (2 ^ n)) = table n (sweptEntry chosen q f old) :=
    table_congr fun k hk => by rw [sweptBelow, if_pos (lowerIndex_lt hq hk)]
  rw [sweep, size_table, hstart, sweepFrom_table hq hchosen (2 ^ n) 0 (by omega), Nat.zero_add,
    hend]

end Sweeps

/-! ## Gates -/

/-- What a gate leaves at index `k`, in terms of the entries before. -/
def Gate.entryAfter (g : Gate) (qubits : List Nat) (old : Nat → Amplitude) (k : Nat) : Amplitude :=
  match g, qubits with
  | .x, q :: _ => old (flipBit q k)
  | .y, q :: _ =>
    if hasBit q k then Amplitude.i.mul (old (flipBit q k))
    else Amplitude.i.neg.mul (old (flipBit q k))
  | .z, q :: _ => if hasBit q k then (old k).neg else old k
  | .h, q :: _ =>
    if hasBit q k then ((old (flipBit q k)).sub (old k)).scale invSqrtTwo
    else ((old k).add (old (withBit q k))).scale invSqrtTwo
  | .cx, control :: target :: _ => if hasBit control k then old (flipBit target k) else old k
  | _, _ => old k

namespace Statevector

variable {n q : Nat} (old : Nat → Amplitude)

/-- What a sweep over all pairs of a qubit leaves at an index. -/
theorem sweptEntry_of_clear (f : Amplitude → Amplitude → Amplitude × Amplitude) (k : Nat) :
    sweptEntry (fun i => !hasBit q i) q f old k
      = if hasBit q k then (f (old (flipBit q k)) (old k)).2
        else (f (old k) (old (flipBit q k))).1 := by
  unfold sweptEntry
  by_cases hk : hasBit q k
  · simp [hk, hasBit_flipBit_self]
  · simp [hk]

theorem sweep_clear_table (hq : q < n) (f : Amplitude → Amplitude → Amplitude × Amplitude) :
    sweep (fun i => !hasBit q i) (withBit q) f (table n old) = some (table n fun k =>
      if hasBit q k then (f (old (flipBit q k)) (old k)).2
      else (f (old k) (old (flipBit q k))).1) := by
  rw [sweep_table hq fun i hi => by simpa using hi]
  exact congrArg some (table_congr fun k _ => sweptEntry_of_clear old f k)

theorem applyX_table (hq : q < n) (rest : List Nat) :
    applyX q (table n old) = some (table n (Gate.x.entryAfter (q :: rest) old)) := by
  rw [applyX, sweep_clear_table old hq]
  exact congrArg some (table_congr fun k _ => ite_self _)

theorem applyY_table (hq : q < n) (rest : List Nat) :
    applyY q (table n old) = some (table n (Gate.y.entryAfter (q :: rest) old)) := by
  rw [applyY, sweep_clear_table old hq]
  rfl

theorem applyH_table (hq : q < n) (rest : List Nat) :
    applyH q (table n old) = some (table n (Gate.h.entryAfter (q :: rest) old)) := by
  rw [applyH, sweep_clear_table old hq]
  refine congrArg some (table_congr fun k _ => ?_)
  rw [Gate.entryAfter]
  by_cases hk : hasBit q k
  · rw [if_pos hk, if_pos hk]
  · rw [if_neg hk, if_neg hk, withBit_eq_flipBit (Bool.eq_false_iff.mpr hk)]

theorem applyZ_table (rest : List Nat) :
    applyZ q (table n old) = some (table n (Gate.z.entryAfter (q :: rest) old)) := by
  refine congrArg some (eq_table (by simp [size_table]) fun k hk => ?_)
  rw [Array.getElem?_mapIdx, getElem?_table old hk]
  rfl

/-- The control is another qubit than the target, so both entries of a pair agree on it. -/
theorem applyCX_table {control target : Nat} (ht : target < n) (hne : target ≠ control)
    (rest : List Nat) : applyCX control target (table n old)
      = some (table n (Gate.cx.entryAfter (control :: target :: rest) old)) := by
  rw [applyCX, sweep_table ht fun i hi => by simp at hi; exact hi.2]
  refine congrArg some (table_congr fun k _ => ?_)
  rw [Gate.entryAfter, sweptEntry, hasBit_flipBit_of_ne hne, hasBit_flipBit_self]
  by_cases hk : hasBit target k
  · simp [hk]
  · simp [hk]

/-- **Each gate leaves at every index what the entries before it say.** -/
theorem applyGate_table {g : Gate} {qubits : List Nat} (hlen : g.arity ≤ qubits.length)
    (hlt : ∀ q ∈ qubits, q < n) (hnodup : qubits.Nodup) :
    applyGate g qubits (table n old) = some (table n (g.entryAfter qubits old)) := by
  cases qubits with
  | nil => cases g <;> simp [Gate.arity] at hlen
  | cons q rest =>
    have hq : q < n := hlt q List.mem_cons_self
    cases g with
    | h => exact applyH_table old hq rest
    | x => exact applyX_table old hq rest
    | y => exact applyY_table old hq rest
    | z => exact applyZ_table old rest
    | cx =>
      cases rest with
      | nil => simp [Gate.arity] at hlen
      | cons target rest =>
        have hne : target ≠ q := fun he =>
          (List.nodup_cons.mp hnodup).1 (he ▸ List.mem_cons_self)
        exact applyCX_table old (hlt target (List.mem_cons_of_mem _ List.mem_cons_self)) hne rest

/-- Applying a gate to a state whose entries have names. -/
theorem apply_table {s : Statevector} (hs : s.amplitudes = table n old) {i : Instruction} {g : Gate}
    (hkind : i.kind = .gate g) (hlen : g.arity ≤ i.qubits.length) (hlt : ∀ q ∈ i.qubits, q < n)
    (hnodup : i.qubits.Nodup) :
    s.apply i = some (s.withAmplitudes (table n (g.entryAfter i.qubits old))) := by
  rw [apply, hkind, hs]
  simp only [applyGate_table old hlen hlt hnodup, Option.map_some]

/-- **A gate leaves at every index what the entries before it say.** No other entries count: the
function `old` may have any values beyond the vector. -/
theorem exists_apply_entryAfter {s : Statevector} (hsize : s.amplitudes.size = 2 ^ n)
    {old : Nat → Amplitude} (hold : ∀ k, k < 2 ^ n → s.amplitudes[k]? = some (old k))
    {i : Instruction} {g : Gate} (hkind : i.kind = .gate g) (hlen : i.qubits.length = g.arity)
    (hlt : ∀ q ∈ i.qubits, q < n) (hnodup : i.qubits.Nodup) :
    ∃ t, s.apply i = some t ∧ t.numQubits = s.numQubits ∧ t.amplitudes.size = 2 ^ n ∧
      ∀ k, k < 2 ^ n → t.amplitudes[k]? = some (g.entryAfter i.qubits old k) := by
  have happly := apply_table old (eq_table hsize hold) hkind (Nat.le_of_eq hlen.symm) hlt hnodup
  exact ⟨_, happly, rfl, size_table n _, fun k hk => getElem?_table _ hk⟩

/-- The control is qubit 1, so the entries at 2 and 3 change places. -/
theorem exists_apply_entryAfter_cx :
    ∃ t, (Statevector.mk 2 #[.one, .i, .zero, Amplitude.i.neg]).apply (.gate .cx [1, 0]) = some t ∧
      t.amplitudes.size = 4 ∧ t.amplitudes[0]? = some .one ∧ t.amplitudes[1]? = some .i ∧
      t.amplitudes[2]? = some Amplitude.i.neg ∧ t.amplitudes[3]? = some .zero := by
  have hold : ∀ k, k < 2 ^ 2 → #[Amplitude.one, .i, .zero, Amplitude.i.neg][k]?
      = some (#[Amplitude.one, .i, .zero, Amplitude.i.neg].getD k .zero) := by
    intro k hk
    have hcases : k = 0 ∨ k = 1 ∨ k = 2 ∨ k = 3 := by omega
    rcases hcases with rfl | rfl | rfl | rfl <;> rfl
  obtain ⟨t, ht, -, hsize, hentries⟩ := exists_apply_entryAfter
    (s := ⟨2, #[.one, .i, .zero, Amplitude.i.neg]⟩) (i := .gate .cx [1, 0]) rfl hold rfl rfl
    (by decide) (by decide)
  exact ⟨t, ht, hsize, hentries 0 (by decide), hentries 1 (by decide), hentries 2 (by decide),
    hentries 3 (by decide)⟩

end Statevector

end QuantumBlocks
