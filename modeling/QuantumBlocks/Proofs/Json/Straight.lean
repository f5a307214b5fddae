import QuantumBlocks.Proofs.Json.Spelling

/-!
# Texts without apostrophes

A text has no apostrophes if none stands in it and no escape stands for one. Outside strings no
backslash is taken off the front of such a text, and inside them it is taken together with what it
escapes. So what is left is again a text without apostrophes, and no string that is spelled in one
has any.

* `Straight.of_append` — what follows characters without a backslash
* `Straight.of_denotes` — a string that is spelled in such a text, and what follows it
-/

namespace QuantumBlocks

open Text Number

namespace Json

/-! ## The texts -/

/-- A text in which no apostrophe stands and no escape stands for one. -/
inductive Straight : List Char → Prop where
  | nil : Straight []
  | plain {c : Char} {rest : List Char} (hc : c ≠ '\'') (hescape : c ≠ '\\')
    (hrest : Straight rest) : Straight (c :: rest)
  | short {letter : Char} {rest : List Char} (hletter : letter ≠ 'u') (hrest : Straight rest) :
    Straight ('\\' :: letter :: rest)
  | code {a b c d : Char} {n : Nat} {rest : List Char} (hn : fourHex? a b c d = some n)
    (hlow : n < 0x20) (hrest : Straight rest) : Straight ('\\' :: 'u' :: a :: b :: c :: d :: rest)

namespace Straight

theorem tail {c : Char} {rest : List Char} (h : Straight (c :: rest)) (hc : c ≠ '\\') :
    Straight rest := by
  cases h with
  | plain _ _ hrest => exact hrest
  | short => exact absurd rfl hc
  | code => exact absurd rfl hc

/-- Characters without a backslash leave no escape half read. -/
theorem of_append {front rest : List Char} (hfront : '\\' ∉ front) (h : Straight (front ++ rest)) :
    Straight rest := by
  induction front with
  | nil => exact h
  | cons c front ih =>
    rw [List.mem_cons, not_or] at hfront
    exact ih hfront.2 (h.tail (Ne.symm hfront.1))

/-- Text without backslashes or apostrophes may stand in front. -/
theorem append {front rest : List Char} (hfront : ∀ c ∈ front, c ≠ '\'' ∧ c ≠ '\\')
    (h : Straight rest) : Straight (front ++ rest) := by
  induction front with
  | nil => exact h
  | cons c front ih =>
    rw [List.forall_mem_cons] at hfront
    exact .plain hfront.1.1 hfront.1.2 (ih hfront.2)

/-! ## Strings -/

theorem shortEscape?_ne {letter value : Char} (h : shortEscape? letter = some value) :
    value ≠ '\'' := by
  unfold shortEscape? at h
  split at h <;> cases h <;> decide

theorem ofNat_ne {n : Nat} (h : n < 0x20) : Char.ofNat n ≠ '\'' := by
  have hall : ∀ n < 0x20, Char.ofNat n ≠ '\'' := by decide
  exact hall n h

/-- No character that is spelled is an apostrophe. -/
theorem of_spellsChar {chunk rest : List Char} {c : Char} (hc : SpellsChar chunk c)
    (h : Straight (chunk ++ rest)) : c ≠ '\'' ∧ Straight rest := by
  cases hc with
  | plain hc =>
    cases h with
    | plain hne _ hrest => exact ⟨hne, hrest⟩
    | short => exact absurd rfl hc.2.1
    | code => exact absurd rfl hc.2.1
  | short hshort =>
    cases h with
    | plain _ hescape => exact absurd rfl hescape
    | short _ hrest => exact ⟨shortEscape?_ne hshort, hrest⟩
    | code => cases hshort
  | code hn =>
    cases h with
    | plain _ hescape => exact absurd rfl hescape
    | short hletter => exact absurd rfl hletter
    | code hn' hlow hrest =>
      cases hn.symm.trans hn'
      exact ⟨ofNat_ne hlow, hrest⟩
  | halves hfirst _ hhigh =>
    cases h with
    | plain _ hescape => exact absurd rfl hescape
    | short hletter => exact absurd rfl hletter
    | code hn hlow =>
      -- The first half of a pair is no control character.
      cases hfirst.symm.trans hn
      exact absurd hhigh (not_isHighHalf (Nat.lt_trans hlow (by decide)))

/-- **A string that is spelled has no apostrophe.** -/
theorem of_denotes {text cs rest : List Char} (htext : Denotes text cs)
    (h : Straight (text ++ '\"' :: rest)) : '\'' ∉ cs ∧ Straight rest := by
  induction htext with
  | nil => exact ⟨List.not_mem_nil, h.tail (by decide)⟩
  | cons hc _ ih =>
    rw [List.append_assoc] at h
    obtain ⟨hne, hafter⟩ := h.of_spellsChar hc
    obtain ⟨hnot, hrest⟩ := ih hafter
    exact ⟨List.not_mem_cons_of_ne_of_not_mem (Ne.symm hne) hnot, hrest⟩

end Straight

end Json

end QuantumBlocks
