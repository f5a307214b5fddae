import QuantumBlocks.Json.Decoder
import QuantumBlocks.Json.Printer
import QuantumBlocks.Proofs.Json.Spelling
import QuantumBlocks.Proofs.Number.Digits
import QuantumBlocks.Proofs.Text.Runs

/-!
# Tokens that are written and read back

A reader takes from the front of a text the token that was written there, whatever text comes
next. Blanks may stand in front of a token. A string ends at its quote; a number ends where no
character comes that could belong to it.

* `spells_escape` — a string with its escapes
* `readNumeral_toDigits` — a natural number of 64 bits
-/

namespace QuantumBlocks

open Text Number

namespace Json

/-! ## Blanks and marks -/

/-- The blanks in front of a token are skipped. -/
theorem skipSpace_run (space : Run isSpace) {c : Char} (hc : isSpace c = false)
    (rest : List Char) : skipSpace (space.1 ++ c :: rest) = c :: rest :=
  dropWhile_run space hc rest

/-- What holds of the four blanks holds of every blank. -/
theorem of_isSpace {q : Char → Prop} (hblank : q ' ') (hline : q '\n') (htab : q '\t')
    (hreturn : q '\r') {c : Char} (h : isSpace c = true) : q c := by
  simp only [isSpace, Bool.or_eq_true, decide_eq_true_eq] at h
  rcases h with ((rfl | rfl) | rfl) | rfl
  · exact hblank
  · exact hline
  · exact htab
  · exact hreturn

/-! ## Strings -/

/-- A control is written as the four digits of its code point in base sixteen, which read as it. -/
theorem toList_hexPadded {n : Nat} (h : n < 0x20) :
    (hexPadded 4 n).toList = ['0', '0', Nat.digitChar (n / 16), Nat.digitChar (n % 16)] := by
  have hall : ∀ n < 0x20, (hexPadded 4 n).toList
      = ['0', '0', Nat.digitChar (n / 16), Nat.digitChar (n % 16)] := by decide
  exact hall n h

theorem fourHex?_digitChar {n : Nat} (h : n < 0x20) :
    fourHex? '0' '0' (Nat.digitChar (n / 16)) (Nat.digitChar (n % 16)) = some n := by
  have hall : ∀ n < 0x20,
      fourHex? '0' '0' (Nat.digitChar (n / 16)) (Nat.digitChar (n % 16)) = some n := by decide
  exact hall n h

/-- What is written for a character between quotes: the character itself, or an escape that is
read as it. -/
theorem escapeChar_cases (c : Char) :
    (escapeChar c = [c] ∧ c ≠ '\"' ∧ c ≠ '\\' ∧ 0x20 ≤ c.toNat) ∨
    (∃ letter, escapeChar c = ['\\', letter] ∧ letter ≠ 'u' ∧ shortEscape? letter = some c) ∨
    (c.toNat < 0x20 ∧ escapeChar c = ['\\', 'u', '0', '0', Nat.digitChar (c.toNat / 16),
      Nat.digitChar (c.toNat % 16)]) := by
  rw [escapeChar]
  split
  · next h => exact Or.inr (Or.inl ⟨_, rfl, by decide, by rw [h]; rfl⟩)
  split
  · next h => exact Or.inr (Or.inl ⟨_, rfl, by decide, by rw [h]; rfl⟩)
  split
  · next h => exact Or.inr (Or.inl ⟨_, rfl, by decide, by rw [h]; rfl⟩)
  split
  · next h => exact Or.inr (Or.inl ⟨_, rfl, by decide, by rw [h]; rfl⟩)
  split
  · next h => exact Or.inr (Or.inl ⟨_, rfl, by decide, by rw [h]; rfl⟩)
  split
  · next h => exact Or.inr (Or.inl ⟨_, rfl, by decide, by rw [h]; rfl⟩)
  split
  · next h => exact Or.inr (Or.inl ⟨_, rfl, by decide, by rw [h]; rfl⟩)
  split
  · next h => exact Or.inr (Or.inr ⟨h, by rw [toList_hexPadded h]⟩)
  · next hquote hescape _ _ _ _ _ hcontrol =>
    exact Or.inl ⟨rfl, hquote, hescape, Nat.not_lt.mp hcontrol⟩

/-- What is written for a character between quotes stands for it. -/
theorem spellsChar_escapeChar (c : Char) : SpellsChar (escapeChar c) c := by
  rcases escapeChar_cases c with ⟨hc, hplain⟩ | ⟨letter, hc, -, hletter⟩ | ⟨hlow, hc⟩
  · rw [hc]
    exact .plain hplain
  · rw [hc]
    exact .short hletter
  · have hcode := SpellsChar.code (fourHex?_digitChar hlow) (not_isHighHalf (by omega))
      (not_isLowHalf (by omega))
    rw [Char.ofNat_toNat] at hcode
    rw [hc]
    exact hcode

theorem denotes_escape (cs : List Char) : Denotes (escape cs) cs := by
  induction cs with
  | nil => exact .nil
  | cons c cs ih =>
    rw [escape, List.flatMap_cons]
    exact .cons (spellsChar_escapeChar c) ih

/-- **What is written for a string is read as it.** -/
theorem spells_escape (s : String) : Spells (escape s.toList) s :=
  spells_iff_denotes.mpr (denotes_escape s.toList)

theorem escapeChar_of_isUnescaped {c : Char} (h : IsUnescaped c) : escapeChar c = [c] := by
  obtain ⟨hquote, hescape, hcontrol⟩ := h
  have hne {d : Char} (hd : d.toNat < 0x20) : c ≠ d := by
    rintro rfl
    omega
  rw [escapeChar, if_neg hquote, if_neg hescape, if_neg (hne (by decide)), if_neg (hne (by decide)),
    if_neg (hne (by decide)), if_neg (hne (by decide)), if_neg (hne (by decide)),
    if_neg (Nat.not_lt.mpr hcontrol)]

theorem escape_of_isUnescaped {cs : List Char} (h : ∀ c ∈ cs, IsUnescaped c) : escape cs = cs := by
  induction cs with
  | nil => rfl
  | cons c cs ih =>
    rw [List.forall_mem_cons] at h
    rw [escape, List.flatMap_cons, ← escape, escapeChar_of_isUnescaped h.1, ih h.2]
    rfl

/-- A word that needs no escapes is read as it stands. -/
theorem spells_word {word : List Char} (hword : ∀ c ∈ word, IsUnescaped c) :
    Spells word (String.ofList word) := by
  have hspells := spells_escape (String.ofList word)
  rw [String.toList_ofList, escape_of_isUnescaped hword] at hspells
  exact hspells

/-! ## Numbers -/

/-- A character that cannot belong to a natural number. -/
def IsPastNumber (c : Char) : Prop := isAsciiDigit c = false ∧ c ≠ '.' ∧ c ≠ 'e' ∧ c ≠ 'E'

instance (c : Char) : Decidable (IsPastNumber c) := inferInstanceAs (Decidable (_ ∧ _))

/-- What comes next ends a natural number. -/
def EndsNumber (rest : List Char) : Prop := ∀ c ∈ rest.head?, IsPastNumber c

theorem isPastNumber_of_isSpace {c : Char} (h : isSpace c = true) : IsPastNumber c :=
  of_isSpace (by decide) (by decide) (by decide) (by decide) h

theorem isSpace_of_isAsciiDigit {c : Char} (hc : isAsciiDigit c = true) : isSpace c = false := by
  by_contra hspace
  have hpast := isPastNumber_of_isSpace (Bool.not_eq_false _ ▸ hspace)
  rw [hpast.1] at hc
  cases hc

/-- Blanks and a mark after them end a number. -/
theorem endsNumber_run (space : Run isSpace) {c : Char} (hc : IsPastNumber c) (rest : List Char) :
    EndsNumber (space.1 ++ c :: rest) :=
  head?_run_append space (fun _ hd => isPastNumber_of_isSpace hd) hc rest

theorem readDigitRun_append {digits rest : List Char} (hne : digits ≠ [])
    (hdigits : ∀ c ∈ digits, isAsciiDigit c = true)
    (hrest : ∀ c ∈ rest.head?, isAsciiDigit c = false) :
    ∃ h, readDigitRun (digits ++ rest) = .ok (digits, ⟨rest, h⟩) := by
  obtain ⟨d, ds, rfl⟩ := List.exists_cons_of_ne_nil hne
  rw [List.forall_mem_cons] at hdigits
  have hlen : rest.length < (d :: ds ++ rest).length := by
    simp only [List.length_append, List.length_cons]
    omega
  refine ⟨hlen, ?_⟩
  have htake : (ds ++ rest).takeWhile isAsciiDigit = ds := by
    rw [takeWhile_append_of_head hrest, List.takeWhile_eq_self_iff.mpr hdigits.2]
  have hdrop : (ds ++ rest).dropWhile isAsciiDigit = rest := by
    rw [dropWhile_append_of_head hrest, List.dropWhile_eq_nil_iff.mpr hdigits.2, List.nil_append]
  simp only [List.cons_append, readDigitRun, hdigits.1, if_true, spanDigits, htake, hdrop]

theorem readWhole_toDigits (n : Nat) {rest : List Char}
    (hrest : ∀ c ∈ rest.head?, isAsciiDigit c = false) :
    ∃ h, readWhole (Nat.toDigits 10 n ++ rest) = .ok (Nat.toDigits 10 n, ⟨rest, h⟩) := by
  obtain ⟨h, hrun⟩ := readDigitRun_append Nat.toDigits_ne_nil
    (fun c hc => isAsciiDigit_of_mem_toDigits (n := n) hc) hrest
  refine ⟨h, ?_⟩
  -- Only a zero with a digit after it is no number, and a zero stands alone.
  rcases Nat.eq_zero_or_pos n with rfl | hn
  · cases rest with
    | nil => exact hrun
    | cons c tail =>
      have hc : isAsciiDigit c = false := hrest c rfl
      show readWhole ('0' :: c :: tail) = _
      rw [readWhole, if_neg (by simp [hc])]
      rfl
  · have hhead := head?_toDigits_ne_zero hn
    obtain ⟨d, ds, hd, -⟩ := exists_toDigits_eq_cons n
    rw [hd] at hhead
    rw [readWhole.eq_2, hrun]
    intro c tail heq
    rw [hd, List.cons_append, List.cons.injEq] at heq
    exact hhead (congrArg some heq.1)

theorem readFraction_none {rest : List Char} (h : ∀ c ∈ rest.head?, c ≠ '.') :
    ∃ h', readFraction rest = .ok ([], ⟨rest, h'⟩) := by
  refine ⟨Nat.le_refl _, ?_⟩
  rw [readFraction.eq_2]
  rintro tail rfl
  exact h '.' rfl rfl

theorem readExponent_none {rest : List Char} (h : ∀ c ∈ rest.head?, c ≠ 'e' ∧ c ≠ 'E') :
    ∃ h', readExponent rest = .ok (none, ⟨rest, h'⟩) := by
  refine ⟨Nat.le_refl _, ?_⟩
  cases rest with
  | nil => rfl
  | cons c tail =>
    obtain ⟨hsmall, hlarge⟩ := h c rfl
    rw [readExponent, if_neg (by simp [hsmall, hlarge])]

theorem readUnsigned_toDigits (negative : Bool) (n : Nat) {rest : List Char}
    (hrest : EndsNumber rest) :
    ∃ h, readUnsigned negative (Nat.toDigits 10 n ++ rest)
      = .ok ({ negative, whole := Nat.toDigits 10 n }, ⟨rest, h⟩) := by
  obtain ⟨hlen, hwhole⟩ := readWhole_toDigits n fun c hc => (hrest c hc).1
  obtain ⟨_, hfraction⟩ := readFraction_none fun c hc => (hrest c hc).2.1
  obtain ⟨_, hexponent⟩ := readExponent_none fun c hc => (hrest c hc).2.2
  refine ⟨hlen, ?_⟩
  simp only [readUnsigned, hwhole, hfraction, hexponent]

theorem readLiteral_toDigits (n : Nat) {rest : List Char} (hrest : EndsNumber rest) :
    ∃ h, readLiteral (Nat.toDigits 10 n ++ rest)
      = .ok ({ negative := false, whole := Nat.toDigits 10 n }, ⟨rest, h⟩) := by
  obtain ⟨hlen, hunsigned⟩ := readUnsigned_toDigits false n hrest
  refine ⟨hlen, ?_⟩
  rw [readLiteral.eq_2, hunsigned]
  intro tail heq
  obtain ⟨d, ds, hd, hdigit⟩ := exists_toDigits_eq_cons n
  rw [hd, List.cons_append, List.cons.injEq] at heq
  rw [heq.1] at hdigit
  exact absurd hdigit (by decide)

/-! ### Values -/

theorem le_foldl_digits (n : Nat) (digits : List Char) :
    n ≤ digits.foldl (fun n c => 10 * n + digitValue c) n := by
  induction digits generalizing n with
  | nil => exact Nat.le_refl _
  | cons c digits ih =>
    have hle := ih (10 * n + digitValue c)
    rw [List.foldl_cons]
    omega

/-- Digits of a number below the limit are all gathered. -/
theorem gather_eq {limit n : Nat} {digits : List Char}
    (h : digits.foldl (fun n c => 10 * n + digitValue c) n < limit) :
    gather limit n digits = (digits.foldl (fun n c => 10 * n + digitValue c) n, []) := by
  induction digits generalizing n with
  | nil => rfl
  | cons c digits ih =>
    rw [List.foldl_cons] at h ⊢
    rw [gather, if_pos (Nat.lt_of_le_of_lt (le_foldl_digits _ digits) h), ih h]

theorem gather_toDigits {limit n : Nat} (h : n < limit) :
    gather limit 0 (Nat.toDigits 10 n) = (n, []) := by
  have hread : (Nat.toDigits 10 n).foldl (fun n c => 10 * n + digitValue c) 0 = n :=
    readDigits_toDigits n
  rw [gather_eq (hread.symm ▸ h), hread]

/-- The value of digits alone that fit a word: a negative zero, and a negative number beyond
64 bits, are no integers. -/
theorem Literal.value_of_word {l : Literal} {n : Nat} (hfraction : l.fraction = [])
    (hexponent : l.exponent = none) (hgather : gather (Nat.pow 2 64) 0 l.whole = (n, [])) :
    l.value =
      if l.negative = false then .ok (.integer n)
      else if n = 0 ∨ Nat.pow 2 63 < n then .ok (.double ⟨l.negative, Binary64.ofNat n⟩)
      else .ok (.integer (-(n : Int))) := by
  unfold Literal.value
  rw [hgather]
  refine (if_pos ⟨hfraction, hexponent⟩).trans ?_
  exact if_neg (not_not_intro rfl)

/-- **A natural number of 64 bits is read from its digits.** -/
theorem readNumeral_toDigits {n : Nat} (hn : n ≤ maxUnsigned64) {rest : List Char}
    (hrest : EndsNumber rest) :
    ∃ h, readNumeral (Nat.toDigits 10 n ++ rest) = .ok (.integer n, ⟨rest, h⟩) := by
  obtain ⟨hlen, hliteral⟩ := readLiteral_toDigits n hrest
  have hgather : gather (Nat.pow 2 64) 0 (Nat.toDigits 10 n) = (n, []) :=
    gather_toDigits (Nat.lt_of_le_of_lt hn (by decide))
  have hvalue := Literal.value_of_word (l := { negative := false, whole := Nat.toDigits 10 n })
    rfl rfl hgather
  rw [if_pos rfl] at hvalue
  refine ⟨hlen, ?_⟩
  simp only [readNumeral, hliteral, hvalue]

end Json

end QuantumBlocks
