import QuantumBlocks.Proofs.Json.Members
import QuantumBlocks.Proofs.Json.Numerals

/-!
# What readers take off a text

A reader that succeeds tells what stood at the front of its text: blanks and a mark, a quoted
spelling of a name, the digits of a count without a zero in front. Together with what is left that
is the whole text.

* `toDigits_readDigits` — digits without a zero in front are those of their number
* `exists_of_readNumeral` — the text of an integer that is not negative
* `exists_of_fromText_unsigned64` — the text of a count
* `exists_of_nextMember_first`, `exists_of_nextMember_later` — the text up to the colon of a member
* `exists_of_fromText_members` — the text of an object up to its first member
-/

namespace QuantumBlocks

open Text Number

/-! ## Digits -/

namespace Number

theorem digitChar_digitValue {c : Char} (hc : isAsciiDigit c = true) :
    Nat.digitChar (digitValue c) = c := by
  have hall : ∀ n ≤ 9, Nat.digitChar n = Char.ofNat (n + '0'.toNat) := by decide
  have hle : '0'.toNat ≤ c.toNat := by
    simp only [isAsciiDigit, Bool.and_eq_true, decide_eq_true_eq] at hc
    exact hc.1
  rw [hall _ (digitValue_le_nine hc), digitValue, Nat.sub_add_cancel hle, Char.ofNat_toNat]

theorem toDigits_digitValue {c : Char} (hc : isAsciiDigit c = true) :
    Nat.toDigits 10 (digitValue c) = [c] := by
  rw [Nat.toDigits_of_lt_base (Nat.lt_succ_of_le (digitValue_le_nine hc)), digitChar_digitValue hc]

/-- Digits behind those of a positive number. -/
theorem toDigits_append {n : Nat} (hn : 0 < n) {digits : List Char}
    (hdigits : ∀ c ∈ digits, isAsciiDigit c = true) :
    Nat.toDigits 10 n ++ digits
      = Nat.toDigits 10 (digits.foldl (fun n c => 10 * n + digitValue c) n) := by
  induction digits generalizing n with
  | nil => rw [List.append_nil, List.foldl_nil]
  | cons c digits ih =>
    obtain ⟨hc, hdigits⟩ := List.forall_mem_cons.mp hdigits
    have hstep : Nat.toDigits 10 n ++ [c] = Nat.toDigits 10 (10 * n + digitValue c) := by
      rw [← toDigits_digitValue hc]
      exact Nat.toDigits_append_toDigits (by decide) hn
        (Nat.lt_succ_of_le (digitValue_le_nine hc))
    rw [List.foldl_cons, ← ih (by omega) hdigits, ← hstep, List.append_assoc]
    rfl

/-- Digits as a reader takes them for a whole number: a zero in front stands alone. -/
def IsWhole (digits : List Char) : Prop :=
  digits ≠ [] ∧ (∀ c ∈ digits, isAsciiDigit c = true) ∧ (digits.head? = some '0' → digits = ['0'])

/-- **Digits without a zero in front are those of their number.** -/
theorem toDigits_readDigits {digits : List Char} (h : IsWhole digits) :
    Nat.toDigits 10 (readDigits digits) = digits := by
  obtain ⟨hne, hdigits, hzero⟩ := h
  obtain ⟨c, rest, rfl⟩ := List.exists_cons_of_ne_nil hne
  obtain ⟨hc, hrest⟩ := List.forall_mem_cons.mp hdigits
  rcases Nat.eq_zero_or_pos (digitValue c) with hvalue | hpos
  · have hsame : c = '0' := by
      have hdigit := digitChar_digitValue hc
      rw [hvalue] at hdigit
      exact hdigit.symm
    rw [hzero (congrArg some hsame)]
    rfl
  · have hread : readDigits (c :: rest)
        = rest.foldl (fun n c => 10 * n + digitValue c) (digitValue c) := by
      rw [readDigits, List.foldl_cons, Nat.mul_zero, Nat.zero_add]
    rw [hread, ← toDigits_append hpos hrest, toDigits_digitValue hc]
    rfl

end Number

namespace Json

/-! ## Numbers -/

theorem exists_of_readDigitRun {cs digits : List Char} {left : Shorter cs.length}
    (h : readDigitRun cs = .ok (digits, left)) :
    digits ≠ [] ∧ (∀ c ∈ digits, isAsciiDigit c = true) ∧ cs = digits ++ left.1 := by
  cases cs with
  | nil => cases h
  | cons c rest =>
    rw [readDigitRun] at h
    split at h
    · next hc =>
      cases h
      refine ⟨List.cons_ne_nil _ _, ?_, ?_⟩
      · exact List.forall_mem_cons.mpr ⟨hc, fun d hd => List.mem_takeWhile_imp hd⟩
      · exact congrArg (c :: ·) List.takeWhile_append_dropWhile.symm
    · cases h

theorem exists_of_readWhole {cs digits : List Char} {left : Shorter cs.length}
    (h : readWhole cs = .ok (digits, left)) : IsWhole digits ∧ cs = digits ++ left.1 := by
  unfold readWhole at h
  split at h
  · split at h
    · cases h
    · cases h
      exact ⟨⟨List.cons_ne_nil _ _, List.forall_mem_singleton.mpr rfl, fun _ => rfl⟩, rfl⟩
  · next hlong =>
    obtain ⟨hne, hdigits, hsplit⟩ := exists_of_readDigitRun h
    refine ⟨⟨hne, hdigits, fun hzero => ?_⟩, hsplit⟩
    -- A zero with a character behind it is the other case.
    obtain ⟨d, ds, rfl⟩ := List.exists_cons_of_ne_nil hne
    cases Option.some.inj hzero
    cases ds with
    | nil => rfl
    | cons e ds => exact absurd hsplit (hlong e (ds ++ left.1))

theorem eq_of_readFraction {cs : List Char} {left : { rest : List Char // rest.length ≤ cs.length }}
    (h : readFraction cs = .ok ([], left)) : left.1 = cs := by
  unfold readFraction at h
  split at h
  · split at h
    · next hrun =>
      cases h
      exact absurd rfl (exists_of_readDigitRun hrun).1
    · cases h
  · cases h
    rfl

theorem eq_of_readExponent {cs : List Char} {left : { rest : List Char // rest.length ≤ cs.length }}
    (h : readExponent cs = .ok (none, left)) : left.1 = cs := by
  cases cs with
  | nil =>
    cases h
    rfl
  | cons mark tail =>
    rw [readExponent] at h
    split at h
    · split at h
      split at h
      · cases h
      · cases h
    · cases h
      rfl

/-- The text of a literal without sign, fraction and exponent. -/
theorem exists_of_readLiteral {cs : List Char} {literal : Literal} {left : Shorter cs.length}
    (h : readLiteral cs = .ok (literal, left)) (hsign : literal.negative = false)
    (hfraction : literal.fraction = []) (hexponent : literal.exponent = none) :
    IsWhole literal.whole ∧ cs = literal.whole ++ left.1 := by
  have hunsigned : readUnsigned false cs = .ok (literal, left) := by
    unfold readLiteral at h
    split at h
    · split at h
      · next hread =>
        cases h
        unfold readUnsigned at hread
        split at hread
        · cases hread
        · split at hread
          · cases hread
          · split at hread
            · cases hread
            · cases hread
              cases hsign
      · cases h
    · exact h
  unfold readUnsigned at hunsigned
  split at hunsigned
  · cases hunsigned
  · next hwhole =>
    split at hunsigned
    · cases hunsigned
    · next hpoint =>
      split at hunsigned
      · cases hunsigned
      · next hmark =>
        cases hunsigned
        cases hfraction
        cases hexponent
        obtain ⟨hdigits, hsplit⟩ := exists_of_readWhole hwhole
        have hrest := (eq_of_readExponent hmark).trans (eq_of_readFraction hpoint)
        exact ⟨hdigits, hsplit.trans (congrArg (_ ++ ·) hrest.symm)⟩

/-- Digits that are left over and cannot be scaled are a fault. -/
theorem Literal.value_of_beyond {l : Literal} {leading : Nat} {left : List Char}
    (hfraction : l.fraction = []) (hexponent : l.exponent = none)
    (hgather : gather (Nat.pow 2 64) 0 l.whole = (leading, left)) (hleft : left ≠ [])
    (hscale : scale leading left.length = none) : l.value = .error 0 := by
  unfold Literal.value
  rw [hgather]
  refine (if_pos ⟨hfraction, hexponent⟩).trans ?_
  refine (if_pos hleft).trans ?_
  simp only [hscale]

/-- A literal with a fraction or an exponent is no integer. -/
theorem Literal.value_ne_integer {l : Literal} (h : ¬(l.fraction = [] ∧ l.exponent = none))
    (n : Int) : l.value ≠ .ok (.integer n) := by
  intro hvalue
  unfold Literal.value at hvalue
  split at hvalue
  split at hvalue
  · next halone => exact absurd halone h
  · split at hvalue
    split at hvalue
    · simp only at hvalue
      split at hvalue <;> cases hvalue
    · split at hvalue
      · simp only at hvalue
        split at hvalue <;> cases hvalue
      · split at hvalue <;> cases hvalue

/-- Only digits alone that fit a word make an integer that is not negative. -/
theorem Literal.of_value_integer {l : Literal} {n : Nat} (h : l.value = .ok (.integer n)) :
    l.negative = false ∧ l.fraction = [] ∧ l.exponent = none ∧
      gather (Nat.pow 2 64) 0 l.whole = (n, []) := by
  by_cases halone : l.fraction = [] ∧ l.exponent = none
  · obtain ⟨hfraction, hexponent⟩ := halone
    rcases hgather : gather (Nat.pow 2 64) 0 l.whole with ⟨leading, left⟩
    by_cases hleft : left = []
    · rw [hleft] at hgather
      rw [value_of_word hfraction hexponent hgather] at h
      split at h
      · next hsign =>
        cases h
        exact ⟨hsign, hfraction, hexponent, by rw [hleft]⟩
      · split at h
        · cases h
        · next hsmall =>
          have hminus : -(leading : Int) = n := Numeral.integer.inj (Except.ok.inj h)
          omega
    · cases hscale : scale leading left.length with
      | none =>
        rw [value_of_beyond hfraction hexponent hgather hleft hscale] at h
        cases h
      | some units =>
        rw [value_of_long hfraction hexponent hgather hleft hscale] at h
        cases h
  · exact absurd h (value_ne_integer halone n)

/-- **The text of an integer that is not negative** is its digits. -/
theorem exists_of_readNumeral {cs : List Char} {n : Nat} {left : Shorter cs.length}
    (h : readNumeral cs = .ok (.integer n, left)) : cs = Nat.toDigits 10 n ++ left.1 := by
  unfold readNumeral at h
  split at h
  · cases h
  · next literal rest hliteral =>
    split at h
    · next hvalue =>
      cases h
      obtain ⟨hsign, hfraction, hexponent, hgather⟩ := Literal.of_value_integer hvalue
      obtain ⟨hwhole, hsplit⟩ := exists_of_readLiteral hliteral hsign hfraction hexponent
      have hread : n = readDigits literal.whole := (gather_bounds hwhole.2.1 hgather).2.1 rfl
      rw [hread, toDigits_readDigits hwhole]
      exact hsplit
    · cases h

/-! ## Blanks and marks -/

theorem exists_of_skipSpace {cs rest : List Char} {c : Char} (h : skipSpace cs = c :: rest) :
    ∃ space : Run isSpace, cs = space.1 ++ c :: rest :=
  ⟨⟨cs.takeWhile isSpace, fun _ hd => List.mem_takeWhile_imp hd⟩,
    h ▸ List.takeWhile_append_dropWhile.symm⟩

theorem exists_of_readColon {cs : List Char} {left : Shorter cs.length}
    (h : readColon cs = .ok left) : ∃ space : Run isSpace, cs = space.1 ++ ':' :: left.1 := by
  unfold readColon at h
  split at h
  · cases h
  · next hspace =>
    split at h
    · next hmark =>
      cases h
      exact hmark ▸ exists_of_skipSpace hspace
    · cases h

/-! ## Counts -/

theorem eq_of_readWord {word cs : List Char} {value found : Scalar}
    {left : { rest : List Char // rest.length ≤ cs.length }}
    (h : readWord word value cs = .ok (found, left)) : found = value := by
  unfold readWord at h
  split at h
  · cases h
    rfl
  · cases h

/-- A scalar that is a number is one in the text. -/
theorem readNumeral_of_readScalar {cs : List Char} {numeral : Numeral} {left : Shorter cs.length}
    (h : readScalar cs = .ok (.number numeral, left)) : readNumeral cs = .ok (numeral, left) := by
  cases cs with
  | nil => cases h
  | cons c tail =>
    rw [readScalar] at h
    simp only at h
    -- A word, of which there are three, is no number.
    split at h
    · split at h
      · next hword =>
        cases h
        cases eq_of_readWord hword
      · cases h
    split at h
    · split at h
      · next hword =>
        cases h
        cases eq_of_readWord hword
      · cases h
    split at h
    · split at h
      · next hword =>
        cases h
        cases eq_of_readWord hword
      · cases h
    split at h
    · split at h
      · next hread =>
        cases h
        exact hread
      · cases h
    split at h
    · split at h <;> cases h
    · cases h

theorem exists_of_fromText_scalar {α : Type} {expected : String} {accept : Scalar → Except Cause α}
    {depth : Nat} {cs : List Char} {a : α} {left : Shorter cs.length}
    (h : (Decoder.scalar expected accept).fromText depth cs = .ok (a, left)) :
    ∃ (space : Run isSpace) (text : List Char) (found : Scalar) (hlen : left.1.length < text.length),
      cs = space.1 ++ text ∧ readScalar text = .ok (found, ⟨left.1, hlen⟩) ∧
      accept found = .ok a := by
  simp only [Decoder.scalar] at h
  split at h
  · cases h
  · next c rest hspace =>
    split at h
    · cases h
    · split at h
      · cases h
      · next found left' hread =>
        split at h
        · next haccept =>
          cases h
          obtain ⟨space, hcs⟩ := exists_of_skipSpace hspace
          exact ⟨space, c :: rest, found, left'.2, hcs, hread, haccept⟩
        · cases h

/-- **The text of a count**: its digits, with blanks in front of them. -/
theorem exists_of_fromText_unsigned64 {depth : Nat} {cs : List Char} {n : Nat}
    {left : Shorter cs.length} (h : Decoder.unsigned64.fromText depth cs = .ok (n, left)) :
    n ≤ maxUnsigned64 ∧ ∃ space : Run isSpace, cs = space.1 ++ (Nat.toDigits 10 n ++ left.1) := by
  obtain ⟨value, hvalue, rfl⟩ := Decoder.exists_of_fromText_map h
  obtain ⟨space, text, found, hlen, hcs, hread, haccept⟩ := exists_of_fromText_scalar hvalue
  split at haccept
  · next numeral =>
    split at haccept
    · next hfits =>
      cases haccept
      simp only [Bool.and_eq_true, decide_eq_true_eq] at hfits
      obtain ⟨m, rfl⟩ := Int.eq_ofNat_of_zero_le hfits.1
      have htext := exists_of_readNumeral (readNumeral_of_readScalar hread)
      exact ⟨Int.ofNat_le.mp hfits.2, space, hcs.trans (congrArg (space.1 ++ ·) htext)⟩
    · cases haccept
  · cases haccept

/-! ## Members -/

theorem exists_of_readName {n : Nat} {cs : List Char} {hlen : cs.length ≤ n} {name : String}
    {left : Shorter n} (h : readName n cs hlen = .ok (.member name left)) :
    ∃ text, Denotes text name.toList ∧ cs = '\"' :: (text ++ '\"' :: left.1) := by
  cases cs with
  | nil => cases h
  | cons c rest =>
    rw [readName] at h
    split at h
    · next hc =>
      split at h
      · next hstring =>
        cases h
        obtain ⟨text, htext, hrest⟩ := exists_of_readString hstring
        exact ⟨text, htext, hc ▸ congrArg ('\"' :: ·) hrest⟩
      · cases h
    · cases h

theorem readName_ne_closed {n : Nat} {cs : List Char} {hlen : cs.length ≤ n} {left : Shorter n} :
    readName n cs hlen ≠ .ok (.closed left) := by
  intro h
  cases cs with
  | nil => cases h
  | cons c rest =>
    rw [readName] at h
    split at h
    · split at h <;> cases h
    · cases h

section NextMember

variable {n : Nat} {cs : List Char} {hlen : cs.length < n} {name : String} {left : Shorter n}

/-- The end of an object is its bracket. -/
theorem exists_of_nextMember_closed {first : Bool}
    (h : nextMember n first cs hlen = .ok (.closed left)) :
    ∃ space : Run isSpace, cs = space.1 ++ '\x7d' :: left.1 := by
  unfold nextMember at h
  split at h
  · cases h
  · next hspace =>
    split at h
    · next hbracket =>
      cases h
      exact hbracket ▸ exists_of_skipSpace hspace
    · split at h
      · exact absurd h readName_ne_closed
      · split at h
        · split at h
          · cases h
          · split at h
            · cases h
            · exact absurd h readName_ne_closed
        · cases h

/-- The first member of an object begins with its name. -/
theorem exists_of_nextMember_first (h : nextMember n true cs hlen = .ok (.member name left)) :
    ∃ (space : Run isSpace) (text : List Char), Denotes text name.toList ∧
      cs = space.1 ++ '\"' :: (text ++ '\"' :: left.1) := by
  unfold nextMember at h
  split at h
  · cases h
  · next hspace =>
    split at h
    · cases h
    · simp only [if_true] at h
      obtain ⟨space, hcs⟩ := exists_of_skipSpace hspace
      obtain ⟨text, htext, hname⟩ := exists_of_readName h
      exact ⟨space, text, htext, hcs.trans (congrArg (space.1 ++ ·) hname)⟩

/-- A member that follows another one begins with a comma. -/
theorem exists_of_nextMember_later (h : nextMember n false cs hlen = .ok (.member name left)) :
    ∃ (before after : Run isSpace) (text : List Char), Denotes text name.toList ∧
      cs = before.1 ++ ',' :: (after.1 ++ '\"' :: (text ++ '\"' :: left.1)) := by
  unfold nextMember at h
  split at h
  · cases h
  · next hspace =>
    split at h
    · cases h
    · simp only [Bool.false_eq_true, if_false] at h
      split at h
      · next hcomma =>
        split at h
        · cases h
        · next hspace' =>
          split at h
          · cases h
          · obtain ⟨before, hcs⟩ := exists_of_skipSpace hspace
            obtain ⟨after, hafter⟩ := exists_of_skipSpace hspace'
            obtain ⟨text, htext, hname⟩ := exists_of_readName h
            refine ⟨before, after, text, htext, ?_⟩
            rw [← hname, ← hafter, ← hcomma]
            exact hcs
      · cases h

end NextMember

/-- The members of an object stand between its brackets. -/
theorem exists_of_fromText_members {α : Type} {d : Decoder α} {expected : String} {depth : Nat}
    {cs : List Char} {found : List (String × α)} {left : Shorter cs.length}
    (h : (Decoder.members d expected).fromText depth cs = .ok (found, left)) :
    ∃ (inner : Nat) (space : Run isSpace) (tail : List Char) (hlen : tail.length < cs.length),
      depth = inner + 1 ∧ cs = space.1 ++ '\x7b' :: tail ∧
      readMembers (d.fromText inner) cs.length [] tail hlen = .ok (found, left) := by
  simp only [Decoder.members] at h
  split at h
  · cases h
  · next c rest hspace =>
    unfold Decoder.bracketed at h
    split at h
    · next hopening =>
      split at h
      · cases h
      · next inner =>
        obtain ⟨space, hcs⟩ := exists_of_skipSpace hspace
        cases Option.some.inj hopening
        exact ⟨inner, space, rest, length_lt_of_skipSpace hspace, rfl, hcs, h⟩
    · cases h

end Json

end QuantumBlocks
