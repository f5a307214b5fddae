import QuantumBlocks.Number.Rounding

/-!
# Numbers in double precision

A finite number of the 64-bit binary format as a sign and a magnitude. The magnitude counts the
smallest positive number of the format, `2 ^ -1074`, so every finite number is a natural number of
these units, and rounding a quotient to the format is one division: a number of units below
`2 ^ 53` is kept as it is, and a larger one keeps its 53 leading bits.
-/

namespace QuantumBlocks.Number

/-- A finite number: its sign, and its magnitude in units of `2 ^ -1074`. -/
structure Binary64 where
  negative : Bool
  units : Nat
  deriving DecidableEq, Repr, Inhabited

namespace Binary64

/-! ## Magnitudes -/

/-- The number one in units. -/
def one : Nat := Nat.pow 2 1074

/-- The first power of two that no finite number reaches, in units. -/
def limit : Nat := Nat.pow 2 2098

/-- The magnitude of the format nearest to `num / den`, a tie going to the even neighbour. -/
def roundRatio (num den : Nat) : Nat :=
  let dropped := Nat.pow 2 (Nat.log2 (num * one / den) - 52)
  roundDiv (num * one) (den * dropped) * dropped

/-- The magnitude nearest to a natural number. -/
def ofNat (n : Nat) : Nat := roundRatio n 1

/-- The product of two magnitudes, rounded. -/
def mul (a b : Nat) : Nat := roundRatio (a * b) (one * one)

/-- The quotient of two magnitudes, rounded. -/
def div (a b : Nat) : Nat := roundRatio a b

/-- The magnitude nearest to a power of ten. -/
def powerOfTen (exponent : Nat) : Nat := ofNat (Nat.pow 10 exponent)

/-- The natural number below a magnitude. -/
def floor (units : Nat) : Nat := units / one

/-! ## Whole parts -/

/-- The whole part of a number, which is the number without its fraction. -/
def truncate (x : Binary64) : Int :=
  if x.negative then -(floor x.units : Int) else (floor x.units : Int)

end Binary64

/-! ## Machine integers -/

/-- The largest number of an unsigned word of 64 bits. -/
def maxUnsigned64 : Nat := Nat.pow 2 64 - 1

/-- The largest number of an unsigned word of 32 bits. -/
def maxUnsigned32 : Nat := Nat.pow 2 32 - 1

/-- The largest number of a signed word of 64 bits. -/
def maxSigned64 : Int := Int.pow 2 63 - 1

/-- The smallest number of a signed word of 64 bits. -/
def minSigned64 : Int := -Int.pow 2 63

/-- Whether an integer fits a signed word of 64 bits. -/
def fitsSigned64 (n : Int) : Bool := minSigned64 ≤ n && n ≤ maxSigned64

/-- The number of a signed word of 64 bits that is nearest to an integer. -/
def clampSigned64 (n : Int) : Int := max minSigned64 (min maxSigned64 n)

/-- An integer that fits is its own clamping. -/
theorem clampSigned64_of_fits {n : Int} (h : fitsSigned64 n = true) : clampSigned64 n = n := by
  simp only [fitsSigned64, Bool.and_eq_true, decide_eq_true_eq] at h
  simp only [clampSigned64]
  omega

end QuantumBlocks.Number
