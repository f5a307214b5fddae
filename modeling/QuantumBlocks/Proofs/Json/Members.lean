import QuantumBlocks.Json.Record
import QuantumBlocks.Proofs.Json.Tokens

/-!
# Members that are written and read back

An object is read member by member: the name up to its quote, the colon, the value, and the comma
or the bracket after it, with blanks wherever a token ends.

* `exists_readMembers_member` — a member is read and the rest is read as what follows it
* `fromText_unsigned64` — a count is read from its digits
-/

namespace QuantumBlocks

open Text Number

namespace Json

/-! ## Names and colons -/

theorem readColon_run (space : Run isSpace) (rest : List Char) :
    ∃ h, readColon (space.1 ++ ':' :: rest) = .ok ⟨rest, h⟩ := by
  have hskip := skipSpace_run space (c := ':') (by decide) rest
  refine ⟨length_lt_of_skipSpace hskip, ?_⟩
  unfold readColon
  split
  · next hs => rw [hskip] at hs; cases hs
  · next hs =>
    rw [hskip] at hs
    cases hs
    rfl

theorem readName_of_spells {text : List Char} {name : String} (hname : Spells text name)
    (n : Nat) (rest : List Char) (h : ('\"' :: (text ++ '\"' :: rest)).length ≤ n) :
    ∃ h', readName n ('\"' :: (text ++ '\"' :: rest)) h = .ok (.member name ⟨rest, h'⟩) := by
  obtain ⟨hlen, hread⟩ := hname rest
  refine ⟨Nat.lt_of_lt_of_le hlen (Nat.le_of_succ_le h), ?_⟩
  simp only [readName, if_true, hread]

/-! ## From member to member -/

theorem nextMember_close (n : Nat) (first : Bool) (space : Run isSpace) (rest : List Char)
    (h : (space.1 ++ '\x7d' :: rest).length < n) :
    ∃ h', nextMember n first (space.1 ++ '\x7d' :: rest) h = .ok (.closed ⟨rest, h'⟩) := by
  have hskip := skipSpace_run space (c := '\x7d') (by decide) rest
  refine ⟨Nat.lt_trans (length_lt_of_skipSpace hskip) h, ?_⟩
  unfold nextMember
  split
  · next hs => rw [hskip] at hs; cases hs
  · next hs =>
    rw [hskip] at hs
    cases hs
    rfl

theorem nextMember_first {text : List Char} {name : String} (hname : Spells text name) (n : Nat)
    (space : Run isSpace) (rest : List Char)
    (h : (space.1 ++ '\"' :: (text ++ '\"' :: rest)).length < n) :
    ∃ h', nextMember n true (space.1 ++ '\"' :: (text ++ '\"' :: rest)) h
      = .ok (.member name ⟨rest, h'⟩) := by
  have hskip := skipSpace_run space (c := '\"') (by decide) (text ++ '\"' :: rest)
  have hlen := Nat.lt_of_le_of_lt (length_lt_of_skipSpace hskip) h
  obtain ⟨h', hread⟩ := readName_of_spells hname n rest (Nat.le_of_lt hlen)
  refine ⟨h', ?_⟩
  rw [← hread]
  unfold nextMember
  split
  · next hs => rw [hskip] at hs; cases hs
  · next hs =>
    rw [hskip] at hs
    cases hs
    rfl

theorem nextMember_comma {text : List Char} {name : String} (hname : Spells text name) (n : Nat)
    {first : Bool} (hfirst : first = false) (before after : Run isSpace) (rest : List Char)
    (h : (before.1 ++ ',' :: (after.1 ++ '\"' :: (text ++ '\"' :: rest))).length < n) :
    ∃ h', nextMember n first (before.1 ++ ',' :: (after.1 ++ '\"' :: (text ++ '\"' :: rest)))
      h = .ok (.member name ⟨rest, h'⟩) := by
  have hcomma := skipSpace_run before (c := ',') (by decide)
    (after.1 ++ '\"' :: (text ++ '\"' :: rest))
  have hquote := skipSpace_run after (c := '\"') (by decide) (text ++ '\"' :: rest)
  have hlen := Nat.lt_trans (length_lt_of_skipSpace hcomma) h
  have hlen' := Nat.lt_of_le_of_lt (length_lt_of_skipSpace hquote) hlen
  obtain ⟨h', hread⟩ := readName_of_spells hname n rest (Nat.le_of_lt hlen')
  refine ⟨h', ?_⟩
  rw [← hread, hfirst]
  unfold nextMember
  split
  · next hs => rw [hcomma] at hs; cases hs
  · next hs =>
    rw [hcomma] at hs
    cases hs
    simp only [Char.reduceEq, if_false, if_true, Bool.false_eq_true]
    split
    · next hs' => rw [hquote] at hs'; cases hs'
    · next hs' =>
      rw [hquote] at hs'
      cases hs'
      rfl

/-! ## Member after member -/

section Members

variable {α : Type} {read : Reader α} {n : Nat} (done : List (String × α)) {cs : List Char}

theorem exists_readMembers_close (h : cs.length < n) {rest : List Char}
    (hnext : ∃ h', nextMember cs.length.succ done.isEmpty cs (Nat.lt_succ_self _)
      = .ok (.closed ⟨rest, h'⟩)) :
    ∃ h', readMembers read n done cs h = .ok (done.reverse, ⟨rest, h'⟩) := by
  obtain ⟨hlen, hnext⟩ := hnext
  refine ⟨length_lt_of_lt_succ hlen h, ?_⟩
  rw [readMembers]
  simp only [hnext]

/-- **A member is read, and the rest is read as what follows it.** -/
theorem exists_readMembers_member (h : cs.length < n) {name : String} {item : α}
    {value rest : List Char} {before : Run isSpace}
    (hnext : ∃ h', nextMember cs.length.succ done.isEmpty cs (Nat.lt_succ_self _)
      = .ok (.member name ⟨before.1 ++ ':' :: value, h'⟩))
    (hread : ∃ h', read value = .ok (item, ⟨rest, h'⟩)) :
    ∃ h', readMembers read n done cs h = readMembers read n ((name, item) :: done) rest h' := by
  obtain ⟨hlen, hnext⟩ := hnext
  obtain ⟨hlen', hcolon⟩ := readColon_run before value
  obtain ⟨hlen'', hread⟩ := hread
  have hvalue := length_lt_of_lt hlen' (length_lt_of_lt_succ hlen h)
  refine ⟨length_lt_of_lt hlen'' hvalue, ?_⟩
  rw [readMembers]
  simp only [hnext, hcolon, hread]

end Members

/-! ## Values -/

theorem ne_of_isAsciiDigit {c d : Char} (hc : isAsciiDigit c = true)
    (hd : isAsciiDigit d = false) : c ≠ d := by
  rintro rfl
  rw [hc] at hd
  cases hd

/-- A character that a number can begin with. -/
def BeginsNumber (c : Char) : Prop := c = '-' ∨ isAsciiDigit c = true

section BeginsNumber

variable {c : Char} (hc : BeginsNumber c)

include hc

theorem BeginsNumber.ne {d : Char} (hminus : d ≠ '-') (hd : isAsciiDigit d = false) : c ≠ d := by
  rcases hc with rfl | hdigit
  · exact hminus.symm
  · exact ne_of_isAsciiDigit hdigit hd

theorem BeginsNumber.isSpace_eq_false : isSpace c = false := by
  rcases hc with rfl | hdigit
  · decide
  · exact isSpace_of_isAsciiDigit hdigit

theorem BeginsNumber.not_bracket : ¬(c = '[' ∨ c = '\x7b') :=
  not_or.mpr ⟨hc.ne (by decide) (by decide), hc.ne (by decide) (by decide)⟩

theorem readScalar_of_beginsNumber {tail rest : List Char} {numeral : Numeral}
    (hread : ∃ h, readNumeral (c :: tail) = .ok (numeral, ⟨rest, h⟩)) :
    ∃ h, readScalar (c :: tail) = .ok (.number numeral, ⟨rest, h⟩) := by
  obtain ⟨hlen, hread⟩ := hread
  have hn : c ≠ 'n' := hc.ne (by decide) (by decide)
  have ht : c ≠ 't' := hc.ne (by decide) (by decide)
  have hf : c ≠ 'f' := hc.ne (by decide) (by decide)
  refine ⟨hlen, ?_⟩
  rw [readScalar]
  simp only [if_neg hn, if_neg ht, if_neg hf, hread]
  exact if_pos hc

end BeginsNumber

/-- A value without parts that is accepted, with blanks in front of it. -/
theorem Decoder.fromText_scalar {α : Type} {expected : String} {accept : Scalar → Except Cause α}
    {c : Char} (hspace : isSpace c = false) (hbracket : ¬(c = '[' ∨ c = '\x7b'))
    {tail rest : List Char} {found : Scalar}
    (hread : ∃ h, readScalar (c :: tail) = .ok (found, ⟨rest, h⟩)) {a : α}
    (haccept : accept found = .ok a) (depth : Nat) (space : Run isSpace) :
    ∃ h, (Decoder.scalar expected accept).fromText depth (space.1 ++ c :: tail)
      = .ok (a, ⟨rest, h⟩) := by
  have hskip := skipSpace_run space hspace tail
  obtain ⟨hlen, hread⟩ := hread
  refine ⟨Nat.lt_of_lt_of_le hlen (length_cons_le c (length_lt_of_skipSpace hskip)), ?_⟩
  unfold Decoder.scalar
  simp only
  split
  · next hs => rw [hskip] at hs; cases hs
  · next hs =>
    rw [hskip] at hs
    cases hs
    simp only [if_neg hbracket, hread, haccept]
    rfl

/-- A value without parts where any value may stand, with blanks in front of it. -/
theorem Decoder.fromText_value_scalar {c : Char} (hspace : isSpace c = false)
    (hbracket : ¬(c = '[' ∨ c = '\x7b')) {tail rest : List Char} {found : Scalar}
    (hread : ∃ h, readScalar (c :: tail) = .ok (found, ⟨rest, h⟩)) (depth : Nat)
    (space : Run isSpace) :
    ∃ h, Decoder.value.fromText depth (space.1 ++ c :: tail) = .ok (found.toValue, ⟨rest, h⟩) := by
  have hskip := skipSpace_run space hspace tail
  obtain ⟨hlen, hread⟩ := hread
  have hscalar (inner : Option (Reader Value)) : readValueWith inner (space.1 ++ c :: tail)
      = .ok (found.toValue,
        ⟨rest, Nat.lt_of_lt_of_le hlen (length_cons_le c (length_lt_of_skipSpace hskip))⟩) := by
    unfold readValueWith
    split
    · next hs => rw [hskip] at hs; cases hs
    · next hs =>
      rw [hskip] at hs
      cases hs
      simp only [if_neg hbracket, hread]
      rfl
  cases depth with
  | zero => exact ⟨_, hscalar none⟩
  | succ depth => exact ⟨_, hscalar (some (readValue depth))⟩

theorem Decoder.fromText_map {α β : Type} (f : α → β) {d : Decoder α} {depth : Nat}
    {cs rest : List Char} {a : α} (h : ∃ h, d.fromText depth cs = .ok (a, ⟨rest, h⟩)) :
    ∃ h, (d.map f).fromText depth cs = .ok (f a, ⟨rest, h⟩) := by
  obtain ⟨hlen, hread⟩ := h
  refine ⟨hlen, ?_⟩
  simp only [Decoder.map, hread]

/-- A value that was changed by a function is that of a value that was read. -/
theorem Decoder.exists_of_fromText_map {α β : Type} {f : α → β} {d : Decoder α} {depth : Nat}
    {cs : List Char} {b : β} {left : Shorter cs.length}
    (h : (d.map f).fromText depth cs = .ok (b, left)) :
    ∃ a, d.fromText depth cs = .ok (a, left) ∧ f a = b := by
  simp only [Decoder.map] at h
  split at h
  · next ha =>
    cases h
    exact ⟨_, ha, rfl⟩
  · cases h

/-- The members of an object, read one level deeper than the object. -/
theorem Decoder.fromText_members {α : Type} {d : Decoder α} {expected : String} {depth : Nat}
    (space : Run isSpace) {tail rest : List Char} {found : List (String × α)}
    (hread : ∀ n (h : tail.length < n),
      ∃ h', readMembers (d.fromText depth) n [] tail h = .ok (found, ⟨rest, h'⟩)) :
    ∃ h, (Decoder.members d expected).fromText (depth + 1) (space.1 ++ '\x7b' :: tail)
      = .ok (found, ⟨rest, h⟩) := by
  have hskip := skipSpace_run space (c := '\x7b') (by decide) tail
  obtain ⟨hlen, hread⟩ := hread _ (length_lt_of_skipSpace hskip)
  refine ⟨hlen, ?_⟩
  unfold Decoder.members
  simp only
  split
  · next hs => rw [hskip] at hs; cases hs
  · next hs =>
    rw [hskip] at hs
    cases hs
    exact hread

/-- A text whose value is read up to blanks is read. -/
theorem Decoder.parse_of_fromText {α : Type} {d : Decoder α} {text : String} {a : α}
    (back : Run isSpace)
    (h : ∃ h, d.fromText maxDepth text.toList = .ok (a, ⟨back.1, h⟩)) : d.parse text = .ok a := by
  obtain ⟨hlen, hread⟩ := h
  have hblank : skipSpace back.1 = [] := List.dropWhile_eq_nil_iff.mpr back.2
  have hall : d.read text = .ok a := by
    simp only [Decoder.read, hread, hblank]
  rw [Decoder.parse, hall]
  rfl

/-- A text that is read has its value at its front, and only blanks behind it. -/
theorem Decoder.exists_of_parse {α : Type} {d : Decoder α} {text : String} {a : α}
    (h : d.parse text = .ok a) :
    ∃ left, d.fromText maxDepth text.toList = .ok (a, left) ∧
      ∀ c ∈ left.1, isSpace c = true := by
  simp only [Decoder.parse, Decoder.read] at h
  split at h
  · cases h
  · next hread =>
    split at h
    · next hblank =>
      cases h
      exact ⟨_, hread, List.dropWhile_eq_nil_iff.mp hblank⟩
    · cases h

/-- **A count of 64 bits is read from its digits.** -/
theorem fromText_unsigned64 {n : Nat} (hn : n ≤ maxUnsigned64) {rest : List Char}
    (hrest : EndsNumber rest) (depth : Nat) (space : Run isSpace) :
    ∃ h, Decoder.unsigned64.fromText depth (space.1 ++ (Nat.toDigits 10 n ++ rest))
      = .ok (n, ⟨rest, h⟩) := by
  obtain ⟨d, ds, hd, hascii⟩ := exists_toDigits_eq_cons n
  have hdigit : BeginsNumber d := Or.inr hascii
  have hnumeral := readNumeral_toDigits hn hrest
  rw [hd, List.cons_append] at hnumeral ⊢
  have hfits : (0 ≤ (n : Int) && (n : Int) ≤ maxUnsigned64) = true := by
    simp only [Bool.and_eq_true, decide_eq_true_eq]
    omega
  have hread := readScalar_of_beginsNumber hdigit hnumeral
  refine Decoder.fromText_map Int.toNat (a := (n : Int)) ?_
  refine Decoder.fromText_scalar hdigit.isSpace_eq_false hdigit.not_bracket hread ?_ depth space
  exact if_pos hfits

end Json

end QuantumBlocks
