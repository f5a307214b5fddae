import QuantumBlocks.Json.Token

/-!
# How strings are spelled

Between quotes a character stands for itself, unless it is a quote, a backslash or a control
character, or it is escaped: by a letter, by four digits in base sixteen, or, beyond the basic
plane, by a pair of these. So a string has many spellings. A reader takes each of them, and nothing
else, up to the first quote that is not escaped.

* `readCharacters_of_denotes` — every spelling is read
* `exists_of_readCharacters` — what is read is a spelling
* `spells_iff_denotes` — the texts between quotes that are read as a string
-/

namespace QuantumBlocks.Json

open Number Text

/-! ## Spellings -/

/-- A character that stands for itself in a string. -/
def IsUnescaped (c : Char) : Prop := c ≠ '\"' ∧ c ≠ '\\' ∧ 0x20 ≤ c.toNat

/-- The first half of a character beyond the basic plane. -/
def IsHighHalf (n : Nat) : Prop := 0xD800 ≤ n ∧ n ≤ 0xDBFF

/-- The second half of a character beyond the basic plane. -/
def IsLowHalf (n : Nat) : Prop := 0xDC00 ≤ n ∧ n ≤ 0xDFFF

instance (c : Char) : Decidable (IsUnescaped c) := inferInstanceAs (Decidable (_ ∧ _))

instance (n : Nat) : Decidable (IsHighHalf n) := inferInstanceAs (Decidable (_ ∧ _))

instance (n : Nat) : Decidable (IsLowHalf n) := inferInstanceAs (Decidable (_ ∧ _))

theorem not_isHighHalf {n : Nat} (h : n < 0xD800) : ¬IsHighHalf n := fun hhigh =>
  absurd hhigh.1 (Nat.not_le.mpr h)

theorem not_isLowHalf {n : Nat} (h : n < 0xD800) : ¬IsLowHalf n := fun hlow =>
  absurd (Nat.le_trans (by decide) hlow.1) (Nat.not_le.mpr h)

/-- The code point of two halves. -/
def ofHalves (high low : Nat) : Nat := 0x10000 + (high - 0xD800) * 0x400 + (low - 0xDC00)

/-- A text that stands for a character between quotes. -/
inductive SpellsChar : List Char → Char → Prop where
  | plain {c : Char} (hc : IsUnescaped c) : SpellsChar [c] c
  | short {letter c : Char} (hc : shortEscape? letter = some c) : SpellsChar ['\\', letter] c
  | code {a b c d : Char} {n : Nat} (hn : fourHex? a b c d = some n) (hhigh : ¬IsHighHalf n)
    (hlow : ¬IsLowHalf n) : SpellsChar ['\\', 'u', a, b, c, d] (Char.ofNat n)
  | halves {a b c d e f g h : Char} {high low : Nat} (hfirst : fourHex? a b c d = some high)
    (hsecond : fourHex? e f g h = some low) (hhigh : IsHighHalf high) (hlow : IsLowHalf low) :
    SpellsChar ['\\', 'u', a, b, c, d, '\\', 'u', e, f, g, h] (Char.ofNat (ofHalves high low))

/-- A text between quotes that stands for a string, character by character. -/
inductive Denotes : List Char → List Char → Prop where
  | nil : Denotes [] []
  | cons {chunk text cs : List Char} {c : Char} (hc : SpellsChar chunk c) (h : Denotes text cs) :
    Denotes (chunk ++ text) (c :: cs)

/-! ## Every spelling is read -/

theorem shortEscape?_ne_u {letter c : Char} (h : shortEscape? letter = some c) : letter ≠ 'u' := by
  rintro rfl
  cases h

theorem readHex_of_fourHex {a b c d : Char} {n : Nat} (hn : fourHex? a b c d = some n)
    (rest : List Char) : ∃ h, readHex (a :: b :: c :: d :: rest) = .ok (n, ⟨rest, h⟩) := by
  refine ⟨by simp only [List.length_cons]; omega, ?_⟩
  simp only [readHex, hn]

theorem readCodePoint_of_code {a b c d : Char} {n : Nat} (hn : fourHex? a b c d = some n)
    (hhigh : ¬IsHighHalf n) (hlow : ¬IsLowHalf n) (rest : List Char) :
    ∃ h, readCodePoint (a :: b :: c :: d :: rest) = .ok (Char.ofNat n, ⟨rest, h⟩) := by
  obtain ⟨hlen, hhex⟩ := readHex_of_fourHex hn rest
  refine ⟨hlen, ?_⟩
  rw [readCodePoint, hhex]
  exact (if_neg hlow).trans (if_neg hhigh)

theorem readLowSurrogate_of_fourHex {e f g h : Char} {low : Nat} (hn : fourHex? e f g h = some low)
    (hlow : IsLowHalf low) (high : Nat) (rest : List Char) :
    ∃ hlen, readLowSurrogate high ('\\' :: 'u' :: e :: f :: g :: h :: rest)
      = .ok (Char.ofNat (ofHalves high low), ⟨rest, hlen⟩) := by
  obtain ⟨hlen, hhex⟩ := readHex_of_fourHex hn rest
  have hrange : ¬(low < 0xDC00 ∨ 0xDFFF < low) := by
    rw [IsLowHalf] at hlow
    omega
  refine ⟨by simp only [List.length_cons]; omega, ?_⟩
  rw [readLowSurrogate, hhex]
  exact if_neg hrange

theorem readCodePoint_of_halves {a b c d e f g h : Char} {high low : Nat}
    (hfirst : fourHex? a b c d = some high) (hsecond : fourHex? e f g h = some low)
    (hhigh : IsHighHalf high) (hlow : IsLowHalf low) (rest : List Char) :
    ∃ hlen, readCodePoint (a :: b :: c :: d :: '\\' :: 'u' :: e :: f :: g :: h :: rest)
      = .ok (Char.ofNat (ofHalves high low), ⟨rest, hlen⟩) := by
  obtain ⟨hlen, hhex⟩ := readHex_of_fourHex hfirst ('\\' :: 'u' :: e :: f :: g :: h :: rest)
  obtain ⟨hlen', hpair⟩ := readLowSurrogate_of_fourHex hsecond hlow high rest
  have hnotlow : ¬(0xDC00 ≤ high ∧ high ≤ 0xDFFF) := by
    rw [IsHighHalf] at hhigh
    omega
  refine ⟨Nat.lt_trans hlen' hlen, ?_⟩
  rw [readCodePoint, hhex]
  simp only [if_neg hnotlow, if_pos (show 0xD800 ≤ high ∧ high ≤ 0xDBFF from hhigh), hpair]

/-- A spelled character is read, and the rest is read after it. -/
theorem readCharacters_of_spellsChar {chunk : List Char} {c : Char} (hc : SpellsChar chunk c)
    (n : Nat) (done rest : List Char) (h : (chunk ++ rest).length ≤ n) :
    ∃ h', readCharacters n done (chunk ++ rest) h = readCharacters n (c :: done) rest h' := by
  have hlen : rest.length ≤ n := by
    rw [List.length_append] at h
    omega
  refine ⟨hlen, ?_⟩
  cases hc with
  | plain hc =>
    obtain ⟨hquote, hescape, hcontrol⟩ := hc
    simp only [List.singleton_append]
    rw [readCharacters, if_neg hquote, if_neg hescape, if_neg (Nat.not_lt.mpr hcontrol)]
  | @short letter _ hc =>
    have hread : readEscape (letter :: rest) = .ok (c, ⟨rest, Nat.lt_succ_self _⟩) := by
      simp only [readEscape, if_neg (shortEscape?_ne_u hc), hc]
    simp only [List.cons_append, List.nil_append]
    rw [readCharacters, if_neg (by decide), if_pos rfl, hread]
  | code hn hhigh hlow =>
    obtain ⟨_, hcode⟩ := readCodePoint_of_code hn hhigh hlow rest
    simp only [List.cons_append, List.nil_append]
    rw [readCharacters, if_neg (by decide), if_pos rfl]
    simp only [readEscape, if_true, hcode, Shorter.weaken]
  | halves hfirst hsecond hhigh hlow =>
    obtain ⟨_, hcode⟩ := readCodePoint_of_halves hfirst hsecond hhigh hlow rest
    simp only [List.cons_append, List.nil_append]
    rw [readCharacters, if_neg (by decide), if_pos rfl]
    simp only [readEscape, if_true, hcode, Shorter.weaken]

/-- **Every spelling of a string is read**, up to the quote behind it. -/
theorem readCharacters_of_denotes {text cs : List Char} (htext : Denotes text cs) (n : Nat)
    (done rest : List Char) (h : (text ++ '\"' :: rest).length ≤ n) :
    ∃ h', readCharacters n done (text ++ '\"' :: rest) h
      = .ok (String.ofList (done.reverse ++ cs), ⟨rest, h'⟩) := by
  induction htext generalizing done with
  | nil =>
    have hlen : ('\"' :: rest).length ≤ n := h
    refine ⟨hlen, ?_⟩
    show readCharacters n done ('\"' :: rest) hlen = _
    rw [readCharacters, if_pos rfl, List.append_nil]
  | @cons chunk text cs c hc _ ih =>
    have hsame : (c :: done).reverse ++ cs = done.reverse ++ c :: cs := by simp
    simp only [List.append_assoc] at h ⊢
    obtain ⟨hlen, hchar⟩ := readCharacters_of_spellsChar hc n done _ h
    obtain ⟨h', hread⟩ := ih (c :: done) hlen
    rw [hsame] at hread
    exact ⟨h', hchar.trans hread⟩

/-! ## What is read is a spelling -/

theorem exists_of_readHex {cs : List Char} {n : Nat} {left : Shorter cs.length}
    (h : readHex cs = .ok (n, left)) :
    ∃ a b c d, fourHex? a b c d = some n ∧ cs = a :: b :: c :: d :: left.1 := by
  unfold readHex at h
  split at h
  · split at h
    · next hn =>
      cases h
      exact ⟨_, _, _, _, hn, rfl⟩
    · cases h
  · cases h

theorem exists_of_readLowSurrogate {high : Nat} {cs : List Char} {value : Char}
    {left : Shorter cs.length} (hread : readLowSurrogate high cs = .ok (value, left)) :
    ∃ e f g h low, fourHex? e f g h = some low ∧ IsLowHalf low ∧
      cs = '\\' :: 'u' :: e :: f :: g :: h :: left.1 ∧ value = Char.ofNat (ofHalves high low) := by
  unfold readLowSurrogate at hread
  split at hread
  · cases hread
  · cases hread
  · split at hread
    · cases hread
    · next hhex =>
      split at hread
      · cases hread
      · next hrange =>
        simp only [Except.ok.injEq, Prod.mk.injEq] at hread
        obtain ⟨rfl, rfl⟩ := hread
        obtain ⟨e, f, g, h, hlow, htext⟩ := exists_of_readHex hhex
        refine ⟨e, f, g, h, _, hlow, ?_, congrArg ('\\' :: 'u' :: ·) htext, rfl⟩
        rw [IsLowHalf]
        omega
  · cases hread
  · cases hread

theorem exists_of_readCodePoint {cs : List Char} {value : Char} {left : Shorter cs.length}
    (h : readCodePoint cs = .ok (value, left)) :
    ∃ chunk, SpellsChar ('\\' :: 'u' :: chunk) value ∧ cs = chunk ++ left.1 := by
  unfold readCodePoint at h
  split at h
  · cases h
  · next hhex =>
    obtain ⟨a, b, c, d, hn, htext⟩ := exists_of_readHex hhex
    split at h
    · cases h
    · next hlow =>
      split at h
      · next hhigh =>
        split at h
        · next hpair =>
          cases h
          obtain ⟨e, f, g, h, low, hsecond, hlow', hrest, hvalue⟩ :=
            exists_of_readLowSurrogate hpair
          rw [hvalue]
          exact ⟨[a, b, c, d, '\\', 'u', e, f, g, h], .halves hn hsecond hhigh hlow',
            htext.trans (congrArg (a :: b :: c :: d :: ·) hrest)⟩
        · cases h
      · next hhigh =>
        cases h
        exact ⟨_, .code hn hhigh hlow, htext⟩

theorem exists_of_readEscape {cs : List Char} {value : Char} {left : Shorter cs.length}
    (h : readEscape cs = .ok (value, left)) :
    ∃ chunk, SpellsChar ('\\' :: chunk) value ∧ cs = chunk ++ left.1 := by
  unfold readEscape at h
  split at h
  · cases h
  · split at h
    · next hu =>
      split at h
      · next hcode =>
        cases h
        obtain ⟨chunk, hchunk, htext⟩ := exists_of_readCodePoint hcode
        exact ⟨'u' :: chunk, hchunk, hu ▸ congrArg ('u' :: ·) htext⟩
      · cases h
    · split at h
      · next hshort =>
        cases h
        exact ⟨_, .short hshort, rfl⟩
      · cases h

/-- **What is read up to a quote is a spelling** of the characters that are added. -/
theorem exists_of_readCharacters {n : Nat} {done cs : List Char} {hlen : cs.length ≤ n} {s : String}
    {left : Shorter n} (h : readCharacters n done cs hlen = .ok (s, left)) :
    ∃ text added, Denotes text added ∧ cs = text ++ '\"' :: left.1 ∧
      s = String.ofList (done.reverse ++ added) := by
  fun_induction readCharacters n done cs hlen with
  | case1 => cases h
  | case2 =>
    cases h
    exact ⟨[], [], .nil, rfl, by rw [List.append_nil]⟩
  | case3 => cases h
  | case4 done rest value left' _ hescape _ _ _ ih =>
    obtain ⟨chunk, hchunk, hsplit⟩ := exists_of_readEscape hescape
    obtain ⟨text, added, htext, hrest, hs⟩ := ih h
    refine ⟨('\\' :: chunk) ++ text, value :: added, .cons hchunk htext, ?_, ?_⟩
    · rw [List.append_assoc, ← hrest]
      exact congrArg ('\\' :: ·) hsplit
    · rw [hs, List.reverse_cons, List.append_assoc]
      rfl
  | case5 => cases h
  | case6 done c rest _ hquote hescape hcontrol _ ih =>
    obtain ⟨text, added, htext, hrest, hs⟩ := ih h
    refine ⟨[c] ++ text, c :: added, .cons (.plain ⟨hquote, hescape, ?_⟩) htext, ?_, ?_⟩
    · exact Nat.not_lt.mp hcontrol
    · rw [hrest]
      rfl
    · rw [hs, List.reverse_cons, List.append_assoc]
      rfl

/-! ## Between quotes -/

/-- A text between quotes is read as a string. -/
def Spells (text : List Char) (s : String) : Prop :=
  ∀ rest, ∃ h, readString (text ++ '\"' :: rest) = .ok (s, ⟨rest, h⟩)

theorem exists_of_readString {cs : List Char} {s : String} {left : Shorter cs.length}
    (h : readString cs = .ok (s, left)) :
    ∃ text, Denotes text s.toList ∧ cs = text ++ '\"' :: left.1 := by
  obtain ⟨text, added, htext, hrest, rfl⟩ := exists_of_readCharacters h
  rw [List.reverse_nil, List.nil_append, String.toList_ofList]
  exact ⟨text, htext, hrest⟩

/-- **The texts between quotes that are read as a string** are its spellings. -/
theorem spells_iff_denotes {text : List Char} {s : String} :
    Spells text s ↔ Denotes text s.toList := by
  constructor
  · intro h
    obtain ⟨_, hread⟩ := h []
    obtain ⟨text', htext, hsame⟩ := exists_of_readString hread
    rw [List.append_cancel_right hsame]
    exact htext
  · intro h rest
    obtain ⟨hlen, hread⟩ := readCharacters_of_denotes h _ [] rest (Nat.le_refl _)
    rw [List.reverse_nil, List.nil_append, String.ofList_toList] at hread
    exact ⟨hlen, hread⟩

end QuantumBlocks.Json
