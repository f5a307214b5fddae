import QuantumBlocks.Proofs.Json.Members
import QuantumBlocks.Proofs.Number.Magnitudes

/-!
# Integers of any size that are written and read back

A whole number in a JSON text is an integer as long as its digits fit a word. A longer one is put
together from the digits that fit and a power of ten, and rounded: its last digits are lost, but
neither its sign nor that it is beyond a word.

* `gather_bounds` — what is gathered of a run of digits is its number, or fills a word
* `exists_fromText_signedDigits` — what a whole number is read as
-/

namespace QuantumBlocks

open Text Number

namespace Json

/-! ## Literals -/

/-- A whole number as it is written: a minus if it is negative, and its digits. -/
def signedDigits (negative : Bool) (n : Nat) : List Char :=
  (if negative then ['-'] else []) ++ Nat.toDigits 10 n

/-- A whole number begins with a minus or a digit. -/
theorem exists_signedDigits_eq_cons (negative : Bool) (n : Nat) :
    ∃ c tail, signedDigits negative n = c :: tail ∧ BeginsNumber c := by
  cases negative with
  | true => exact ⟨_, _, rfl, Or.inl rfl⟩
  | false =>
    obtain ⟨d, ds, hd, hdigit⟩ := exists_toDigits_eq_cons n
    exact ⟨d, ds, hd, Or.inr hdigit⟩

theorem readLiteral_signedDigits (negative : Bool) (n : Nat) {rest : List Char}
    (hrest : EndsNumber rest) :
    ∃ h, readLiteral (signedDigits negative n ++ rest)
      = .ok ({ negative, whole := Nat.toDigits 10 n }, ⟨rest, h⟩) := by
  cases negative with
  | false => exact readLiteral_toDigits n hrest
  | true =>
    obtain ⟨hlen, hunsigned⟩ := readUnsigned_toDigits true n hrest
    refine ⟨Nat.lt_succ_of_lt hlen, ?_⟩
    show readLiteral ('-' :: (Nat.toDigits 10 n ++ rest)) = _
    rw [readLiteral, hunsigned]
    rfl

/-! ## Digits that fit and digits that are left -/

/-- A run of digits counts at least as many powers of ten as it is long. -/
theorem mul_pow_le_foldl_digits (n : Nat) (digits : List Char) :
    n * 10 ^ digits.length ≤ digits.foldl (fun n c => 10 * n + digitValue c) n := by
  induction digits generalizing n with
  | nil => simp
  | cons c digits ih =>
    rw [List.foldl_cons, List.length_cons]
    calc n * 10 ^ (digits.length + 1) = 10 * n * 10 ^ digits.length := by
          rw [Nat.pow_succ, Nat.mul_comm 10 n, Nat.mul_assoc, Nat.mul_comm 10]
      _ ≤ (10 * n + digitValue c) * 10 ^ digits.length :=
          Nat.mul_le_mul_right _ (Nat.le_add_right _ _)
      _ ≤ digits.foldl (fun n c => 10 * n + digitValue c) (10 * n + digitValue c) := ih _

/-- **What is gathered of a run of digits** is its number if no digit is left, and otherwise fills
a word; with the digits that are left read as zeros it does not exceed that number. -/
theorem gather_bounds {limit n : Nat} {digits : List Char}
    (hdigits : ∀ c ∈ digits, isAsciiDigit c = true) {leading : Nat} {left : List Char}
    (h : gather limit n digits = (leading, left)) :
    leading * 10 ^ left.length ≤ digits.foldl (fun n c => 10 * n + digitValue c) n ∧
    (left = [] → leading = digits.foldl (fun n c => 10 * n + digitValue c) n) ∧
    (left ≠ [] → limit ≤ 10 * leading + 9) := by
  induction digits generalizing n with
  | nil =>
    cases h
    simp
  | cons c digits ih =>
    rw [List.forall_mem_cons] at hdigits
    rw [gather] at h
    by_cases hfits : 10 * n + digitValue c < limit
    · rw [if_pos hfits] at h
      exact ih hdigits.2 h
    · rw [if_neg hfits] at h
      cases h
      have hdigit := digitValue_le_nine hdigits.1
      refine ⟨mul_pow_le_foldl_digits _ (c :: digits), ?_, ?_⟩
      · intro hnil
        cases hnil
      · intro _
        omega

/-! ## Rounded integers -/

/-- **Digits that fill a word stay beyond 64 bits** when they are scaled by a power of ten, and
what they are scaled to is finite. -/
theorem scale_of_long {leading exponent : Nat} (hleading : 2 ^ 64 ≤ 10 * leading + 9)
    (hexponent : 0 < exponent) (h : leading * 10 ^ exponent < Nat.pow 10 300) :
    ∃ units, scale leading exponent = some units ∧ 2 ^ 63 * Binary64.one ≤ units := by
  have hlarge : 2 ^ 60 ≤ leading := by omega
  have hpos : 0 < leading := Nat.lt_of_lt_of_le (by decide) hlarge
  have hten : 2 ^ 3 ≤ 10 ^ exponent :=
    Nat.le_trans (by decide : 2 ^ 3 ≤ 10 ^ 1) (Nat.pow_le_pow_right (by decide) hexponent)
  have hpower : 0 < 10 ^ exponent := Nat.lt_of_lt_of_le (by decide) hten
  have hne : Binary64.ofNat leading ≠ 0 := by
    have hunits := Binary64.two_pow_le_ofNat hlarge
    have hone := Binary64.one_pos
    omega
  have hrange {k : Nat} (hk : 10 ^ exponent < Nat.pow 10 k) : exponent < k :=
    (Nat.pow_lt_pow_iff_right (by decide)).mp hk
  have hshort := hrange (Nat.lt_of_le_of_lt (Nat.le_mul_of_pos_left _ hpos) h)
  have hword : 2 ^ 63 * Binary64.one
      ≤ Binary64.mul (Binary64.ofNat leading) (Binary64.powerOfTen exponent) :=
    Binary64.two_pow_le_mul (Binary64.two_pow_le_ofNat hlarge) (Binary64.two_pow_le_ofNat hten) rfl
  have hfinite : Binary64.mul (Binary64.ofNat leading) (Binary64.powerOfTen exponent)
      < Binary64.limit := Binary64.mul_ofNat_lt_limit hpos hpower h
  refine ⟨_, ?_, hword⟩
  rw [scale]
  simp only
  rw [if_neg (by omega), if_neg hne, if_pos (by omega), Int.natAbs_natCast, if_pos hfinite]

/-- Digits that are left over are scaled. -/
theorem Literal.value_of_long {l : Literal} {leading units : Nat} {left : List Char}
    (hfraction : l.fraction = []) (hexponent : l.exponent = none)
    (hgather : gather (Nat.pow 2 64) 0 l.whole = (leading, left)) (hleft : left ≠ [])
    (hscale : scale leading left.length = some units) :
    l.value = .ok (.double ⟨l.negative, units⟩) := by
  unfold Literal.value
  rw [hgather]
  refine (if_pos ⟨hfraction, hexponent⟩).trans ?_
  refine (if_pos hleft).trans ?_
  simp only [hscale]

/-! ## Numerals -/

/-- A numeral keeps an integer of a sign and a magnitude: it is that integer, or in double
precision a zero for zero, and for a magnitude beyond 64 bits a magnitude beyond them, with the
same sign. -/
inductive Numeral.Keeps (negative : Bool) (magnitude : Nat) : Numeral → Prop where
  | exact : Keeps negative magnitude (.integer (applySign negative magnitude))
  | zero (h : magnitude = 0) : Keeps negative magnitude (.double ⟨negative, 0⟩)
  | beyond {units : Nat} (h : 2 ^ 63 ≤ magnitude) (hunits : 2 ^ 63 * Binary64.one ≤ units) :
    Keeps negative magnitude (.double ⟨negative, units⟩)

/-- Digits alone that fit a word keep their integer. -/
theorem Literal.exists_value_keeps_of_word {l : Literal} {n : Nat} (hfraction : l.fraction = [])
    (hexponent : l.exponent = none) (hgather : gather (Nat.pow 2 64) 0 l.whole = (n, [])) :
    ∃ numeral, l.value = .ok numeral ∧ numeral.Keeps l.negative n := by
  rw [value_of_word hfraction hexponent hgather]
  cases l.negative with
  | false => exact ⟨_, rfl, .exact⟩
  | true =>
    rw [if_neg (by simp)]
    by_cases hdouble : n = 0 ∨ Nat.pow 2 63 < n
    · refine ⟨_, if_pos hdouble, ?_⟩
      rcases hdouble with rfl | hlarge
      · rw [Binary64.ofNat_zero]
        exact .zero rfl
      · exact .beyond (Nat.le_of_lt hlarge) (Binary64.two_pow_le_ofNat (Nat.le_of_lt hlarge))
    · exact ⟨_, if_neg hdouble, .exact⟩

/-- **Digits alone keep their integer**, however many they are. -/
theorem Literal.exists_value_keeps {l : Literal} {n : Nat} (hn : n < Nat.pow 10 300)
    (hwhole : l.whole = Nat.toDigits 10 n) (hfraction : l.fraction = [])
    (hexponent : l.exponent = none) :
    ∃ numeral, l.value = .ok numeral ∧ numeral.Keeps l.negative n := by
  rcases hgather : gather (Nat.pow 2 64) 0 l.whole with ⟨leading, left⟩
  have hdigits : ∀ c ∈ l.whole, isAsciiDigit c = true := by
    rw [hwhole]
    exact fun c hc => isAsciiDigit_of_mem_toDigits hc
  have hread : l.whole.foldl (fun n c => 10 * n + digitValue c) 0 = n := by
    rw [hwhole]
    exact readDigits_toDigits n
  obtain ⟨hle, hall, hfull⟩ := gather_bounds hdigits hgather
  rw [hread] at hle hall
  by_cases hleft : left = []
  · rw [hall hleft, hleft] at hgather
    exact exists_value_keeps_of_word hfraction hexponent hgather
  · have hlong : 0 < left.length := List.length_pos_iff.mpr hleft
    obtain ⟨units, hscale, hunits⟩ := scale_of_long (hfull hleft) hlong (Nat.lt_of_le_of_lt hle hn)
    refine ⟨_, value_of_long hfraction hexponent hgather hleft hscale, .beyond ?_ hunits⟩
    -- With a digit left the number is ten times what was gathered.
    have hten : leading * 10 ≤ leading * 10 ^ left.length :=
      Nat.mul_le_mul_left leading (Nat.le_self_pow (Nat.ne_of_gt hlong) 10)
    have hfilled : 2 ^ 64 ≤ 10 * leading + 9 := hfull hleft
    omega

/-- **A whole number is read as a numeral that keeps it**, wherever a value may stand. -/
theorem exists_fromText_signedDigits (negative : Bool) {n : Nat} (hn : n < Nat.pow 10 300) :
    ∃ numeral : Numeral, numeral.Keeps negative n ∧
      ∀ (depth : Nat) (space : Run isSpace) (rest : List Char), EndsNumber rest →
        ∃ h, Decoder.value.fromText depth (space.1 ++ (signedDigits negative n ++ rest))
          = .ok (.number numeral, ⟨rest, h⟩) := by
  obtain ⟨numeral, hvalue, hkeeps⟩ := Literal.exists_value_keeps
    (l := { negative, whole := Nat.toDigits 10 n }) hn rfl rfl rfl
  refine ⟨numeral, hkeeps, fun depth space rest hrest => ?_⟩
  obtain ⟨hlen, hliteral⟩ := readLiteral_signedDigits negative n hrest
  have hnumeral : ∃ h, readNumeral (signedDigits negative n ++ rest)
      = .ok (numeral, ⟨rest, h⟩) := by
    refine ⟨hlen, ?_⟩
    simp only [readNumeral, hliteral, hvalue]
  obtain ⟨c, tail, hhead, hc⟩ := exists_signedDigits_eq_cons negative n
  rw [hhead, List.cons_append] at hnumeral ⊢
  exact Decoder.fromText_value_scalar hc.isSpace_eq_false hc.not_bracket
    (readScalar_of_beginsNumber hc hnumeral) depth space

end Json

end QuantumBlocks
