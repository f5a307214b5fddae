import QuantumBlocks.Proofs.Simulator.Amplitudes
import Mathlib.Data.Set.Function
import Mathlib.Order.Interval.Set.Defs

/-!
# Circuits that only move amplitudes

X and CX compute nothing with amplitudes, they move them: the entry at an index goes to the index
that the gate makes of its bits. A list of such gates moves every entry to where the gates in
their order send its index, and the list in reverse moves it back, without any rounding.

* `permute` — where a list of instructions sends an index, by masks on the whole index
* `testBit_permute` — it does what the gates do to the bits one by one
* `bijOn_permute` — it is a bijection of the indices
* `applyAll_ofEntries` — every entry goes where its index is sent
* `applyAll_permutes` — all that a list of such gates does to any state, and to the initial one
-/

namespace QuantumBlocks

namespace Instruction

/-! ## Single instructions -/

/-- The instruction is the gate X or the gate CX. -/
def MovesEntries (i : Instruction) : Prop := i.kind = .gate .x ∨ i.kind = .gate .cx

/-- What an instruction makes of bits: X turns its qubit over, and CX turns the target over where
the control is set. -/
def onBits (bits : Nat → Bool) (i : Instruction) : Nat → Bool :=
  match i.kind, i.qubits with
  | .gate .x, q :: _ => Function.update bits q (!bits q)
  | .gate .cx, control :: target :: _ =>
    if bits control then Function.update bits target (!bits target) else bits
  | _, _ => bits

/-- The index that an instruction makes of an index. -/
def onIndex (k : Nat) (i : Instruction) : Nat :=
  match i.kind, i.qubits with
  | .gate .x, q :: _ => flipBit q k
  | .gate .cx, control :: target :: _ => if hasBit control k then flipBit target k else k
  | _, _ => k

theorem testBit_flipBit (q k : Nat) :
    (flipBit q k).testBit = Function.update k.testBit q (!k.testBit q) := by
  funext p
  by_cases hp : p = q
  · rw [hp, Function.update_self]
    exact hasBit_flipBit_self q k
  · rw [Function.update_of_ne hp]
    exact hasBit_flipBit_of_ne (Ne.symm hp) k

theorem testBit_onIndex (k : Nat) (i : Instruction) :
    (i.onIndex k).testBit = i.onBits k.testBit := by
  unfold onIndex onBits
  split
  · exact testBit_flipBit _ k
  · next control target _ _ _ =>
    by_cases hc : hasBit control k
    · rw [if_pos hc, if_pos (show k.testBit control = true from hc), testBit_flipBit]
    · rw [if_neg hc, if_neg (show ¬k.testBit control = true from hc)]
  · rfl

/-- All that an instruction can make of indices. -/
theorem onIndex_cases (i : Instruction) :
    (∃ q rest, i.qubits = q :: rest ∧ ∀ k, i.onIndex k = flipBit q k) ∨
    (∃ control target rest, i.qubits = control :: target :: rest ∧
      ∀ k, i.onIndex k = if hasBit control k then flipBit target k else k) ∨
    ∀ k, i.onIndex k = k := by
  obtain ⟨kind, qubits, clbits⟩ := i
  match kind, qubits with
  | .gate .x, q :: rest => exact Or.inl ⟨q, rest, rfl, fun _ => rfl⟩
  | .gate .cx, control :: target :: rest =>
    exact Or.inr (Or.inl ⟨control, target, rest, rfl, fun _ => rfl⟩)
  | .gate .x, [] | .gate .cx, [] | .gate .cx, [_] | .gate .h, _ | .gate .y, _ | .gate .z, _
  | .measure, _ => exact Or.inr (Or.inr fun _ => rfl)

/-- An instruction undoes itself, since its operands are different qubits. -/
theorem onIndex_onIndex {i : Instruction} (h : i.qubits.Nodup) (k : Nat) :
    i.onIndex (i.onIndex k) = k := by
  rcases i.onIndex_cases with ⟨q, rest, -, hon⟩ | ⟨control, target, rest, hqubits, hon⟩ | hon
  · rw [hon, hon, flipBit_flipBit]
  · rw [hqubits, List.nodup_cons] at h
    have hne : target ≠ control := fun he => h.1 (he ▸ List.mem_cons_self)
    rw [hon k]
    by_cases hc : hasBit control k
    · rw [if_pos hc, hon, if_pos (by rw [hasBit_flipBit_of_ne hne]; exact hc), flipBit_flipBit]
    · rw [if_neg hc, hon, if_neg hc]
  · rw [hon, hon]

theorem onIndex_lt {i : Instruction} {n k : Nat} (h : ∀ q ∈ i.qubits, q < n) (hk : k < 2 ^ n) :
    i.onIndex k < 2 ^ n := by
  rcases i.onIndex_cases with ⟨q, rest, hqubits, hon⟩ | ⟨control, target, rest, hqubits, hon⟩ | hon
  · rw [hqubits] at h
    rw [hon]
    exact flipBit_lt (h q List.mem_cons_self) hk
  · rw [hqubits] at h
    rw [hon]
    split
    · exact flipBit_lt (h target (List.mem_cons_of_mem _ List.mem_cons_self)) hk
    · exact hk
  · rw [hon]
    exact hk

end Instruction

/-! ## Lists of instructions -/

/-- What instructions one after the other make of bits. -/
def evaluate (is : List Instruction) (bits : Nat → Bool) : Nat → Bool :=
  is.foldl Instruction.onBits bits

/-- Where instructions one after the other send an index. -/
def permute (is : List Instruction) (k : Nat) : Nat := is.foldl Instruction.onIndex k

/-- **An index is sent to the index of its evaluated bits.** -/
theorem testBit_permute (is : List Instruction) (k : Nat) :
    (permute is k).testBit = evaluate is k.testBit := by
  induction is generalizing k with
  | nil => rfl
  | cons i rest ih =>
    show (permute rest (i.onIndex k)).testBit = evaluate rest (i.onBits k.testBit)
    rw [ih, Instruction.testBit_onIndex]

/-- The instructions in reverse send an index back. -/
theorem permute_reverse_permute {is : List Instruction} (h : ∀ i ∈ is, i.qubits.Nodup) (k : Nat) :
    permute is.reverse (permute is k) = k := by
  induction is generalizing k with
  | nil => rfl
  | cons i rest ih =>
    have hrest : permute rest.reverse (permute rest (i.onIndex k)) = i.onIndex k :=
      ih (fun j hj => h j (List.mem_cons_of_mem _ hj)) _
    rw [permute, List.reverse_cons, List.foldl_concat]
    show i.onIndex (permute rest.reverse (permute rest (i.onIndex k))) = k
    rw [hrest, Instruction.onIndex_onIndex (h i List.mem_cons_self)]

theorem permute_permute_reverse {is : List Instruction} (h : ∀ i ∈ is, i.qubits.Nodup) (k : Nat) :
    permute is (permute is.reverse k) = k := by
  have hreverse : ∀ i ∈ is.reverse, i.qubits.Nodup := fun i hi => h i (List.mem_reverse.mp hi)
  have hback := permute_reverse_permute hreverse k
  rw [List.reverse_reverse] at hback
  exact hback

theorem permute_lt {is : List Instruction} {n k : Nat} (h : ∀ i ∈ is, ∀ q ∈ i.qubits, q < n)
    (hk : k < 2 ^ n) : permute is k < 2 ^ n := by
  induction is generalizing k with
  | nil => exact hk
  | cons i rest ih =>
    exact ih (fun j hj => h j (List.mem_cons_of_mem _ hj))
      (Instruction.onIndex_lt (h i List.mem_cons_self) hk)

/-- **Instructions send the indices of the state one to one onto each other.** -/
theorem bijOn_permute {is : List Instruction} {n m : Nat} (h : ∀ i ∈ is, i.Fits n m) :
    Set.BijOn (permute is) (Set.Iio (2 ^ n)) (Set.Iio (2 ^ n)) := by
  have hnodup : ∀ i ∈ is, i.qubits.Nodup := fun i hi => (h i hi).nodup
  have hinv : Set.InvOn (permute is.reverse) (permute is) (Set.Iio (2 ^ n)) (Set.Iio (2 ^ n)) :=
    ⟨fun k _ => permute_reverse_permute hnodup k, fun k _ => permute_permute_reverse hnodup k⟩
  refine hinv.bijOn (fun k hk => ?_) (fun k hk => ?_)
  · exact permute_lt (fun i hi => (h i hi).qubits_lt) hk
  · exact permute_lt (fun i hi => (h i (List.mem_reverse.mp hi)).qubits_lt) hk

namespace Statevector

variable {n m : Nat}

/-! ## States by their entries -/

/-- The state whose entry at `k` is `old k`. -/
def ofEntries (n : Nat) (old : Nat → Amplitude) : Statevector := ⟨n, table n old⟩

theorem ofQubits_ofEntries (old : Nat → Amplitude) : (ofEntries n old).OfQubits n where
  numQubits_eq := rfl
  size_eq := size_table n old

theorem OfQubits.eq_ofEntries {s : Statevector} (hs : s.OfQubits n) {old : Nat → Amplitude}
    (hold : s.amplitudes = table n old) : s = ofEntries n old := by
  rw [ofEntries, ← hold, ← hs.numQubits_eq]

/-! ## Entries that move -/

/-- Every entry after X or CX is the one at the index that the gate makes of its own. -/
theorem exists_entryAfter_eq {i : Instruction} (h : i.MovesEntries) (old : Nat → Amplitude) :
    ∃ g, i.kind = .gate g ∧ g.entryAfter i.qubits old = fun k => old (i.onIndex k) := by
  rcases h with hkind | hkind
  · refine ⟨.x, hkind, funext fun k => ?_⟩
    rw [Instruction.onIndex, hkind]
    cases i.qubits <;> rfl
  · refine ⟨.cx, hkind, funext fun k => ?_⟩
    rw [Instruction.onIndex, hkind]
    match i.qubits with
    | [] => rfl
    | [_] => rfl
    | control :: target :: _ => exact (apply_ite old _ _ _).symm

theorem apply_ofEntries {i : Instruction} (hmoves : i.MovesEntries) (hfits : i.Fits n m)
    (old : Nat → Amplitude) :
    (ofEntries n old).apply i = some (ofEntries n fun k => old (i.onIndex k)) := by
  obtain ⟨g, hkind, hentry⟩ := exists_entryAfter_eq hmoves old
  rw [apply_table old (s := ofEntries n old) rfl hkind (hfits.arity_le hkind) hfits.qubits_lt
    hfits.nodup, hentry]
  rfl

/-- **Every entry goes where its index is sent**, so the one at an index comes from where the
instructions in reverse send it. -/
theorem applyAll_ofEntries {is : List Instruction}
    (h : ∀ i ∈ is, i.MovesEntries ∧ i.Fits n m) (old : Nat → Amplitude) :
    (ofEntries n old).applyAll is = some (ofEntries n fun k => old (permute is.reverse k)) := by
  induction is generalizing old with
  | nil => rfl
  | cons i rest ih =>
    obtain ⟨hmoves, hfits⟩ := h i List.mem_cons_self
    rw [applyAll, List.foldlM_cons, apply_ofEntries hmoves hfits]
    show (ofEntries n fun k => old (i.onIndex k)).applyAll rest = _
    rw [ih (fun j hj => h j (List.mem_cons_of_mem _ hj))]
    -- The last instruction in reverse is the first one.
    simp only [permute, List.reverse_cons, List.foldl_concat]

theorem init_eq_ofEntries (n : Nat) :
    init n = ofEntries n fun k => if k = 0 then .one else .zero := by
  refine (ofQubits_init n).eq_ofEntries (eq_table (ofQubits_init n).size_eq fun k hk => ?_)
  have hlt : k < 1 <<< n := by
    rw [Nat.one_shiftLeft]
    exact hk
  rw [init, Array.getElem?_setIfInBounds, Array.getElem?_replicate, Array.size_replicate]
  by_cases h0 : k = 0
  · simp [h0]
  · simp [h0, hlt, Ne.symm h0]

/-- **A list of X and CX evaluates its gates on the bits of every index.** Each entry goes to the
index of the evaluated bits, which is a bijection of the indices; the initial state becomes the
one that is one where zero is sent and zero elsewhere; and the list in reverse leads back to the
very state that it was applied to. -/
theorem applyAll_permutes {is : List Instruction} (h : ∀ i ∈ is, i.MovesEntries ∧ i.Fits n m) :
    (∀ k, (permute is k).testBit = evaluate is k.testBit) ∧
    Set.BijOn (permute is) (Set.Iio (2 ^ n)) (Set.Iio (2 ^ n)) ∧
    (∀ s : Statevector, s.OfQubits n → ∃ t, s.applyAll is = some t ∧ t.OfQubits n ∧
      (∀ k, k < 2 ^ n → t.amplitudes[permute is k]? = s.amplitudes[k]?) ∧
      t.applyAll is.reverse = some s) ∧
    ∃ t, (init n).applyAll is = some t ∧ t.OfQubits n ∧
      t.amplitudes[permute is 0]? = some .one ∧
      ∀ k, k < 2 ^ n → k ≠ permute is 0 → t.amplitudes[k]? = some .zero := by
  have hfits : ∀ i ∈ is, i.Fits n m := fun i hi => (h i hi).2
  have hnodup : ∀ i ∈ is, i.qubits.Nodup := fun i hi => (hfits i hi).nodup
  have hlt : ∀ k, k < 2 ^ n → permute is k < 2 ^ n := fun k hk =>
    permute_lt (fun i hi => (hfits i hi).qubits_lt) hk
  refine ⟨testBit_permute is, bijOn_permute hfits, ?_, ?_⟩
  · intro s hs
    obtain ⟨old, hold⟩ := exists_eq_table hs.size_eq
    rw [hs.eq_ofEntries hold]
    refine ⟨_, applyAll_ofEntries h old, ofQubits_ofEntries _, fun k hk => ?_, ?_⟩
    · rw [ofEntries, ofEntries, getElem?_table _ (hlt k hk), getElem?_table _ hk,
        permute_reverse_permute hnodup]
    · rw [applyAll_ofEntries fun i hi => h i (List.mem_reverse.mp hi)]
      simp only [List.reverse_reverse, permute_reverse_permute hnodup]
  · rw [init_eq_ofEntries]
    refine ⟨_, applyAll_ofEntries h _, ofQubits_ofEntries _, ?_, fun k hk hne => ?_⟩
    · rw [ofEntries, getElem?_table _ (hlt 0 (Nat.two_pow_pos n)),
        permute_reverse_permute hnodup, if_pos rfl]
    · have hback : permute is.reverse k ≠ 0 := fun h0 => hne (by
        rw [← h0, permute_permute_reverse hnodup])
      rw [ofEntries, getElem?_table _ hk, if_neg hback]

/-- Turning over qubit 2, and qubit 0 where qubit 2 is set, leads from index 0 to index 5. -/
theorem applyAll_permutes_three_qubits :
    let is : List Instruction := [.gate .x [2], .gate .cx [2, 0]]
    (∀ i ∈ is, i.MovesEntries ∧ i.Fits 3 0) ∧
      ∃ t, (init 3).applyAll is = some t ∧ t.amplitudes[5]? = some .one ∧
        ∀ k, k < 8 → k ≠ 5 → t.amplitudes[k]? = some .zero := by
  intro is
  have h : ∀ i ∈ is, i.MovesEntries ∧ i.Fits 3 0 := by
    intro i hi
    rcases List.mem_pair.mp hi with rfl | rfl
    · exact ⟨Or.inl rfl, Circuit.gate_fits rfl (by decide) (by decide)⟩
    · exact ⟨Or.inr rfl, Circuit.gate_fits rfl (by decide) (by decide)⟩
  have hzero : permute is 0 = 5 := by decide
  obtain ⟨-, -, -, t, ht, -, hone, hrest⟩ := applyAll_permutes h
  rw [hzero] at hone hrest
  exact ⟨h, t, ht, hone, hrest⟩

end Statevector

end QuantumBlocks
