import QuantumBlocks.Proofs.Number.Digits
import QuantumBlocks.Proofs.Number.Magnitudes
import QuantumBlocks.Proofs.Text.Runs

/-!
# Integers as people write them

An integer may have a sign in front, a plus as well as a minus, and zeros before its first digit.
It reads as an integer if it fits 64 bits, and as a decimal without point and exponent in any case;
rounded to double precision, it keeps its sign and stays beyond 64 bits.

* `readSigned64?_signedText` — which integers are read
* `Decimal.read?_signedText`, `Decimal.toBinary64?_of_integer` — an integer as a decimal number
-/

namespace QuantumBlocks

open Text

namespace Number

/-! ## Signs -/

/-- The sign of an integer as it is written. -/
inductive Sign where
  | absent
  | plus
  | minus
  deriving DecidableEq, Repr

namespace Sign

/-- The characters of a sign. -/
def chars : Sign → List Char
  | absent => []
  | plus => ['+']
  | minus => ['-']

/-- Whether a sign makes an integer negative. -/
def isMinus : Sign → Bool
  | absent | plus => false
  | minus => true

end Sign

theorem splitSign_append (sign : Sign) {digits : List Char}
    (h : ∀ c ∈ digits.head?, isAsciiDigit c = true) :
    splitSign (sign.chars ++ digits) = (sign.isMinus, digits) := by
  cases sign with
  | absent =>
    show splitSign digits = (false, digits)
    rw [splitSign.eq_3]
    · rintro rest rfl
      exact absurd (h '-' rfl) (by decide)
    · rintro rest rfl
      exact absurd (h '+' rfl) (by decide)
  | plus => rfl
  | minus => rfl

/-! ## Zeros in front -/

/-- The digits of a number with zeros in front. -/
def paddedDigits (zeros n : Nat) : List Char := List.replicate zeros '0' ++ Nat.toDigits 10 n

section PaddedDigits

variable {zeros n : Nat}

theorem isAsciiDigit_of_mem_paddedDigits {c : Char} (h : c ∈ paddedDigits zeros n) :
    isAsciiDigit c = true := by
  rcases List.mem_append.mp h with hzero | hdigit
  · rw [List.eq_of_mem_replicate hzero]
    decide
  · exact isAsciiDigit_of_mem_toDigits hdigit

theorem paddedDigits_ne_nil : paddedDigits zeros n ≠ [] :=
  List.append_ne_nil_of_right_ne_nil _ Nat.toDigits_ne_nil

/-- **Zeros in front of a number do not change it.** -/
theorem readDigits_paddedDigits : readDigits (paddedDigits zeros n) = n := by
  induction zeros with
  | zero => exact readDigits_toDigits n
  | succ zeros ih => exact ih

theorem readNatural?_paddedDigits : readNatural? (paddedDigits zeros n) = some n := by
  rw [readNatural?_of_isAsciiDigit paddedDigits_ne_nil fun c hc =>
    isAsciiDigit_of_mem_paddedDigits hc, readDigits_paddedDigits]

end PaddedDigits

/-! ## Integers -/

/-- An integer with a sign and zeros in front. -/
def signedText (sign : Sign) (zeros n : Nat) : List Char := sign.chars ++ paddedDigits zeros n

theorem splitSign_signedText (sign : Sign) (zeros n : Nat) :
    splitSign (signedText sign zeros n) = (sign.isMinus, paddedDigits zeros n) :=
  splitSign_append sign fun _ hc => isAsciiDigit_of_mem_paddedDigits (List.mem_of_mem_head? hc)

/-- **The integers that are read** are those of 64 bits. -/
theorem readSigned64?_signedText (sign : Sign) (zeros n : Nat) :
    readSigned64? (signedText sign zeros n) =
      if fitsSigned64 (applySign sign.isMinus n) then some (applySign sign.isMinus n) else none := by
  simp only [readSigned64?, splitSign_signedText, readNatural?_paddedDigits]

/-! ## Decimals -/

namespace Decimal

/-- **An integer is a decimal** without fraction and exponent. -/
theorem read?_signedText (sign : Sign) (zeros n : Nat) :
    read? (signedText sign zeros n) = some ⟨sign.isMinus, n, 0⟩ := by
  have hdigits : ∀ c ∈ paddedDigits zeros n, isAsciiDigit c = true :=
    fun c hc => isAsciiDigit_of_mem_paddedDigits hc
  have hwhole : (paddedDigits zeros n).takeWhile isAsciiDigit = paddedDigits zeros n :=
    List.takeWhile_eq_self_iff.mpr hdigits
  have hrest : (paddedDigits zeros n).dropWhile isAsciiDigit = [] :=
    List.dropWhile_eq_nil_iff.mpr hdigits
  simp only [read?, splitSign_signedText, hwhole, hrest, splitFraction, readExponent?,
    List.append_nil, readDigits_paddedDigits, Option.map_some]
  exact if_neg fun hnone => paddedDigits_ne_nil hnone.1

theorem digitCount_le (negative : Bool) (exponent : Int) {n bound e : Nat} (he : 0 < e)
    (hbound : bound ≤ Nat.pow 10 e) (h : n < bound) : digitCount ⟨negative, n, exponent⟩ ≤ e :=
  (Nat.length_toDigits_le_iff (by decide) he).mpr (Nat.lt_of_lt_of_le h hbound)

/-- **An integer in double precision** is its nearest number there, which is finite. -/
theorem toBinary64?_of_integer (negative : Bool) {n : Nat} (hpos : 0 < n)
    (h : n < Nat.pow 10 300) :
    toBinary64? ⟨negative, n, 0⟩ = some ⟨negative, Binary64.ofNat n⟩ := by
  have hcount : digitCount ⟨negative, n, 0⟩ ≤ 300 :=
    digitCount_le negative 0 (by decide) (by decide +kernel) h
  have hfinite : Binary64.roundRatio n 1 < Binary64.limit := Binary64.ofNat_lt_limit h
  have hratio : ratio ⟨negative, n, 0⟩ = (n, 1) := by
    simp [ratio]
  have hsmall : ¬(n = 0 ∨ (0 : Int) + digitCount ⟨negative, n, 0⟩ < -330) := by omega
  have hlarge : ¬310 < (0 : Int) + digitCount ⟨negative, n, 0⟩ := by omega
  simp only [toBinary64?, if_neg hsmall, if_neg hlarge, hratio, if_pos hfinite]
  rfl

end Decimal

end Number

end QuantumBlocks
