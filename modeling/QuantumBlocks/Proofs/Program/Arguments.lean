import QuantumBlocks.Proofs.Json.Numerals
import QuantumBlocks.Proofs.Number.Spellings
import QuantumBlocks.Proofs.Program.OnTheWire

/-!
# Integer arguments

An argument may be a number or a string, and an integer of either gets to a block over one of
several ways: as an integer, as a number in double precision, or as a decimal that is cut to its
whole part. Whichever way is taken, an integer that fits 64 bits arrives as it is, and one beyond
them as the nearest one within: none wraps around, and none is taken for a missing argument.

* `integerOfNumeral_of_keeps`, `integerOfText?_signedText` — what a number and a string give
* `IntegerForm.argument_kept` — what an integer gives in each of its forms
-/

namespace QuantumBlocks

open Json Number Text

/-! ## The nearest integer of 64 bits -/

theorem minSigned64_eq : minSigned64 = -9223372036854775808 := rfl

theorem maxSigned64_eq : maxSigned64 = 9223372036854775807 := rfl

theorem fitsSigned64_iff {n : Int} :
    fitsSigned64 n = true ↔ -9223372036854775808 ≤ n ∧ n ≤ 9223372036854775807 := by
  simp only [fitsSigned64, Bool.and_eq_true, decide_eq_true_eq]
  exact Iff.rfl

/-- The nearest integer of 64 bits: the integer itself, or the end of the range on its side. -/
theorem clampSigned64_eq (n : Int) :
    clampSigned64 n = if fitsSigned64 n then n else if n < 0 then minSigned64 else maxSigned64 := by
  by_cases hfits : fitsSigned64 n = true
  · rw [if_pos hfits, clampSigned64_of_fits hfits]
  · rw [if_neg hfits]
    rw [fitsSigned64_iff] at hfits
    simp only [clampSigned64, minSigned64_eq, maxSigned64_eq]
    split <;> omega

/-- Beyond 64 bits only the sign counts. -/
theorem clampSigned64_of_beyond (negative : Bool) {magnitude : Nat} (h : 2 ^ 63 ≤ magnitude) :
    clampSigned64 (applySign negative magnitude)
      = if negative then minSigned64 else maxSigned64 := by
  cases negative with
  | false =>
    simp only [applySign, clampSigned64, Bool.false_eq_true, if_false, minSigned64_eq,
      maxSigned64_eq]
    omega
  | true =>
    simp only [applySign, clampSigned64, if_true, minSigned64_eq, maxSigned64_eq]
    omega

theorem beyond_of_not_fits {negative : Bool} {magnitude : Nat}
    (h : ¬fitsSigned64 (applySign negative magnitude) = true) : 2 ^ 63 ≤ magnitude := by
  rw [fitsSigned64_iff] at h
  cases negative with
  | false =>
    simp only [applySign, Bool.false_eq_true, if_false] at h
    omega
  | true =>
    simp only [applySign, if_true] at h
    omega

/-- **A number in double precision beyond 64 bits** gives what an integer with its sign gives
there. -/
theorem wholePart_of_beyond (negative : Bool) {units magnitude : Nat} (h : 2 ^ 63 ≤ magnitude)
    (hunits : 2 ^ 63 * Binary64.one ≤ units) :
    wholePart ⟨negative, units⟩ = clampSigned64 (applySign negative magnitude) := by
  have hfloor : 2 ^ 63 ≤ Binary64.floor units :=
    (Nat.le_div_iff_mul_le Binary64.one_pos).mpr hunits
  calc wholePart ⟨negative, units⟩
      = clampSigned64 (applySign negative (Binary64.floor units)) := rfl
    _ = if negative then minSigned64 else maxSigned64 := clampSigned64_of_beyond negative hfloor
    _ = clampSigned64 (applySign negative magnitude) := (clampSigned64_of_beyond negative h).symm

theorem wholePart_zero (negative : Bool) : wholePart ⟨negative, 0⟩ = 0 := by
  have hfloor : Binary64.floor 0 = 0 := Nat.zero_div _
  rw [wholePart, Binary64.truncate, hfloor]
  cases negative with
  | false => rfl
  | true => rfl

theorem natAbs_applySign (negative : Bool) (n : Nat) : (applySign negative n).natAbs = n := by
  cases negative with
  | false => rfl
  | true => exact Int.natAbs_neg n

/-- Clamping keeps an integer above every number of 32 bits that it is above. -/
theorem lt_clampSigned64 {k : Nat} {n : Int} (hk : k ≤ maxUnsigned32) (h : (k : Int) < n) :
    (k : Int) < clampSigned64 n := by
  have hword : maxUnsigned32 = 4294967295 := rfl
  simp only [clampSigned64, minSigned64_eq, maxSigned64_eq]
  omega

/-! ## Numbers -/

theorem applySign_natAbs (n : Int) : applySign (n < 0) n.natAbs = n := by
  by_cases h : n < 0
  · simp only [applySign, h, decide_true, if_true]
    omega
  · simp only [applySign, h, decide_false, Bool.false_eq_true, if_false]
    omega

theorem integerOfNumeral_integer (n : Int) :
    integerOfNumeral (.integer n) = clampSigned64 n := by
  rw [integerOfNumeral]
  split
  · next hfits => exact (clampSigned64_of_fits hfits).symm
  · next hfits =>
    rw [← applySign_natAbs n] at hfits
    have hbeyond := beyond_of_not_fits hfits
    have hunits := Binary64.two_pow_le_ofNat hbeyond
    rw [wholePart_of_beyond _ hbeyond hunits, applySign_natAbs]

/-- **A number that keeps an integer** gives the nearest integer of 64 bits. -/
theorem integerOfNumeral_of_keeps {negative : Bool} {magnitude : Nat} {numeral : Numeral}
    (h : numeral.Keeps negative magnitude) :
    integerOfNumeral numeral = clampSigned64 (applySign negative magnitude) := by
  cases h with
  | exact => exact integerOfNumeral_integer _
  | zero hzero =>
    subst hzero
    rw [integerOfNumeral, wholePart_zero]
    cases negative with
    | false => rfl
    | true => rfl
  | beyond hbeyond hunits => exact wholePart_of_beyond negative hbeyond hunits

/-! ## Strings -/

theorem isBlank_of_mem_signedText {sign : Sign} {zeros n : Nat} {c : Char}
    (h : c ∈ signedText sign zeros n) : isBlank c = false := by
  rcases List.mem_append.mp h with hsign | hdigit
  · cases sign with
    | absent => cases hsign
    | plus =>
      obtain rfl := List.mem_singleton.mp hsign
      decide
    | minus =>
      obtain rfl := List.mem_singleton.mp hsign
      decide
  · exact isBlank_of_isAsciiDigit (isAsciiDigit_of_mem_paddedDigits hdigit)

/-- **A string that holds an integer**, with a sign and zeros in front and blanks around it, gives
the nearest integer of 64 bits. -/
theorem integerOfText?_signedText (front back : Run isBlank) (sign : Sign) (zeros : Nat) {n : Nat}
    (hn : n < Nat.pow 10 300) :
    integerOfText? (String.ofList (front.1 ++ (signedText sign zeros n ++ back.1)))
      = some (clampSigned64 (applySign sign.isMinus n)) := by
  have htrim : trimChars (front.1 ++ (signedText sign zeros n ++ back.1))
      = signedText sign zeros n :=
    trimChars_surround front back
      (fun c hc => isBlank_of_mem_signedText (List.mem_of_mem_head? hc))
      (fun c hc => isBlank_of_mem_signedText (List.mem_of_mem_getLast? hc))
  simp only [integerOfText?, String.toList_ofList, htrim, readSigned64?_signedText]
  by_cases hfits : fitsSigned64 (applySign sign.isMinus n) = true
  · rw [if_pos hfits, clampSigned64_of_fits hfits]
  · have hbeyond := beyond_of_not_fits hfits
    have hunits := Binary64.two_pow_le_ofNat hbeyond
    have hdouble := Decimal.toBinary64?_of_integer sign.isMinus
      (Nat.lt_of_lt_of_le (by decide) hbeyond) hn
    rw [if_neg hfits, Decimal.read?_signedText, Option.bind_some, hdouble, Option.map_some,
      wholePart_of_beyond _ hbeyond hunits]

/-! ## Arguments by name -/

section Members

variable {α β : Type} (f : α → β)

theorem insertMember_map (name : String) (value : α) (members : List (String × α)) :
    insertMember name (f value) (members.map (Prod.map id f))
      = (insertMember name value members).map (Prod.map id f) := by
  induction members with
  | nil => rfl
  | cons member rest ih =>
    obtain ⟨other, old⟩ := member
    simp only [List.map_cons, Prod.map_apply, id_eq, insertMember]
    rw [ih]
    split
    · rfl
    · split
      · rfl
      · rfl

theorem membersOf_concat (pairs : List (String × α)) (pair : String × α) :
    membersOf (pairs ++ [pair]) = insertMember pair.1 pair.2 (membersOf pairs) := by
  rw [membersOf, List.foldl_concat, membersOf]

theorem membersOf_map (pairs : List (String × α)) :
    membersOf (pairs.map (Prod.map id f)) = (membersOf pairs).map (Prod.map id f) := by
  induction pairs using List.reverseRecOn with
  | nil => rfl
  | append_singleton pairs pair ih =>
    rw [List.map_append, List.map_singleton, membersOf_concat, ih, membersOf_concat]
    exact insertMember_map f pair.1 pair.2 _

theorem member?_map (name : String) (members : List (String × α)) :
    member? name (members.map (Prod.map id f)) = (member? name members).map f := by
  simp only [member?, List.find?_map, Option.map_map]
  rfl

end Members

/-- The integers that the arguments of a block give. -/
def RawBlock.integers (b : RawBlock) : List (String × Option Int) :=
  b.args.map (Prod.map id integer?)

theorem RawBlock.integerArg_eq (b : RawBlock) (name : String) (default : Int) :
    b.integerArg name default = ((member? name b.integers).bind id).getD default := by
  rw [integerArg, integers, member?_map]
  cases member? name b.args with
  | none => rfl
  | some v => rfl

/-- **A block depends only on its opcode and the integers of its arguments.** -/
theorem ofRaw_congr {b b' : RawBlock} (hopcode : b.opcode = b'.opcode)
    (hintegers : b.integers = b'.integers) : Block.ofRaw b = Block.ofRaw b' := by
  simp only [Block.ofRaw, hopcode, RawBlock.integerArg_eq, hintegers]

theorem RawBlock.integers_ofList (opcode : String) (args : List (String × Value)) :
    (ofList opcode args).integers = membersOf (args.map (Prod.map id integer?)) :=
  (membersOf_map integer? args).symm

/-! ## Forms of an integer -/

/-- How an integer is written as an argument: as a number, or in a string, where it may have a plus
as well as a minus, zeros in front of its digits, and blanks on both sides. -/
inductive IntegerForm where
  | number (negative : Bool) (magnitude : Nat)
  | text (front : Run isBlank) (sign : Sign) (zeros magnitude : Nat) (back : Run isBlank)

namespace IntegerForm

/-- The integer that is written. -/
def integer : IntegerForm → Int
  | number negative magnitude => applySign negative magnitude
  | text _ sign _ magnitude _ => applySign sign.isMinus magnitude

/-- The value that a form is read as: a number is what the reader makes of its characters wherever
a value may stand, and a string holds its characters. -/
def IsReadAs : IntegerForm → Value → Prop
  | number negative magnitude, v =>
    ∀ (depth : Nat) (space : Run isSpace) (rest : List Char), EndsNumber rest →
      ∃ h, Decoder.value.fromText depth (space.1 ++ (signedDigits negative magnitude ++ rest))
        = .ok (v, ⟨rest, h⟩)
  | text front sign zeros magnitude back, v =>
    v = .string (String.ofList (front.1 ++ (signedText sign zeros magnitude ++ back.1)))

theorem exists_isReadAs {f : IntegerForm} (hf : f.integer.natAbs < Nat.pow 10 300) :
    ∃ v, f.IsReadAs v := by
  cases f with
  | number negative magnitude =>
    rw [integer, natAbs_applySign] at hf
    obtain ⟨numeral, -, hread⟩ := exists_fromText_signedDigits negative hf
    exact ⟨.number numeral, hread⟩
  | text front sign zeros magnitude back => exact ⟨_, rfl⟩

/-- **An integer gives the nearest integer of 64 bits**, in whichever form it is written. -/
theorem IsReadAs.integer?_eq {f : IntegerForm} (hf : f.integer.natAbs < Nat.pow 10 300) {v : Value}
    (hv : f.IsReadAs v) : integer? v = some (clampSigned64 f.integer) := by
  cases f with
  | number negative magnitude =>
    rw [integer, natAbs_applySign] at hf
    obtain ⟨numeral, hkeeps, hread⟩ := exists_fromText_signedDigits negative hf
    -- The reader makes one value of the digits, so this is the one that keeps them.
    have hend : EndsNumber [] := fun c hc => absurd hc (by simp)
    obtain ⟨_, hnumeral⟩ := hread 0 (Run.ofAll [] rfl) [] hend
    obtain ⟨_, hvalue⟩ := hv 0 (Run.ofAll [] rfl) [] hend
    rw [hnumeral] at hvalue
    cases hvalue
    rw [integer?, integerOfNumeral_of_keeps hkeeps]
    rfl
  | text front sign zeros magnitude back =>
    rw [integer, natAbs_applySign] at hf
    subst hv
    exact integerOfText?_signedText front back sign zeros hf

/-- **An integer argument neither wraps nor gets lost.** Whether it is written as a number or in a
string, an integer is read, and gives itself if it fits 64 bits and the end of the range on its side
otherwise. So the form in which it is written does not change the block, and a creation block that
asks for more qubits than allowed, which are at most as many as 32 bits can count, is refused
however many it asks for. -/
theorem argument_kept (f : IntegerForm) (hf : f.integer.natAbs < Nat.pow 10 300) :
    (∃ v, f.IsReadAs v) ∧ ∀ v, f.IsReadAs v →
      (integer? v = some (if fitsSigned64 f.integer then f.integer
        else if f.integer < 0 then minSigned64 else maxSigned64)) ∧
      (∀ (g : IntegerForm) (w : Value), g.integer = f.integer → g.IsReadAs w →
        ∀ (opcode name : String) (front back : List (String × Value)),
          Block.ofRaw (.ofList opcode (front ++ (name, w) :: back))
            = Block.ofRaw (.ofList opcode (front ++ (name, v) :: back))) ∧
      (∀ (limits : Limits) (program : List RawBlock), limits.maxQubits ≤ maxUnsigned32 →
        (limits.maxQubits : Int) < f.integer →
        ∀ b ∈ program, b.opcode = "quantum_createCircuit" → member? "NUM_QUBITS" b.args = some v →
          validate limits (program.map Block.ofRaw) = .error (.tooManyQubits limits.maxQubits)) := by
  refine ⟨exists_isReadAs hf, fun v hv => ?_⟩
  have hgives := hv.integer?_eq hf
  refine ⟨?_, ?_, ?_⟩
  · rw [hgives, clampSigned64_eq]
  · intro g w hinteger hw opcode name front back
    have hsame : integer? w = integer? v := by
      rw [hgives, hw.integer?_eq (hinteger ▸ hf), hinteger]
    refine ofRaw_congr rfl ?_
    simp only [RawBlock.integers_ofList, List.map_append, List.map_cons, Prod.map_apply, hsame]
  · intro limits program hword hover b hb hopcode hmember
    refine (validate_verdicts limits _).1.mpr ((any_asksTooMuch_ofRaw limits program).mpr ?_)
    refine ⟨b, hb, hopcode, ?_⟩
    rw [RawBlock.integerArg, hmember, Option.bind_some, hgives, Option.getD_some]
    exact lt_clampSigned64 hword hover

/-- The first integer of 65 bits, with a plus, zeros and wide blanks around it. -/
theorem argument_kept_two_pow_64 :
    let f := text (Run.ofAll ['\u3000'] (by decide)) .plus 3 18446744073709551616
      (Run.ofAll ['\u0085'] (by decide))
    let v : Value := .string "\u3000+00018446744073709551616\u0085"
    f.integer.natAbs < Nat.pow 10 300 ∧ f.IsReadAs v ∧ integer? v = some maxSigned64 ∧
      (∃ w, (number false 18446744073709551616).IsReadAs w ∧
        Block.ofRaw (.ofList "quantum_gateX" [("QUBIT", w)])
          = Block.ofRaw (.ofList "quantum_gateX" [("QUBIT", v)])) ∧
      validate {} ([.ofList "quantum_createCircuit" [("NUM_QUBITS", v)]].map Block.ofRaw)
        = .error (.tooManyQubits 10) := by
  intro f v
  have hf : f.integer.natAbs < Nat.pow 10 300 := by decide +kernel
  have hv : f.IsReadAs v := rfl
  have hnumber : (number false 18446744073709551616).integer.natAbs < Nat.pow 10 300 := by
    decide +kernel
  obtain ⟨hgives, hsame, hrefused⟩ := (argument_kept f hf).2 v hv
  obtain ⟨w, hw⟩ := (argument_kept _ hnumber).1
  refine ⟨hf, hv, hgives, ⟨w, hw, ?_⟩, ?_⟩
  · exact hsame (number false 18446744073709551616) w rfl hw "quantum_gateX" "QUBIT" [] []
  · refine hrefused {} _ (by decide) (by decide) _ List.mem_cons_self rfl ?_
    rfl

end IntegerForm

end QuantumBlocks
