import QuantumBlocks.Number.Binary64
import Mathlib.Algebra.GroupWithZero.Nat
import Mathlib.Data.Nat.Log

/-!
# Arithmetic in words

Operations on unsigned words of a given number of bits. An operation whose exact result is no such
word has none at all, and so have a difference below zero, a quotient by zero and the logarithm of
zero. A capped operation gives the greatest word instead of a greater number. Each operation comes
with the condition under which it gives the exact result.
-/

namespace QuantumBlocks.Number

variable {bits a b : Nat}

/-! ## Operations -/

/-- A number as a word of so many bits, if it is one. -/
def word? (bits n : Nat) : Option Nat := if n < 2 ^ bits then some n else none

/-- The sum of two words. -/
def add? (bits a b : Nat) : Option Nat := word? bits (a + b)

/-- The product of two words. -/
def mul? (bits a b : Nat) : Option Nat := word? bits (a * b)

/-- A power of a word. -/
def pow? (bits a b : Nat) : Option Nat := word? bits (a ^ b)

/-- The difference of two words. -/
def sub? (a b : Nat) : Option Nat := if b ≤ a then some (a - b) else none

/-- The quotient of two words, rounded down. -/
def div? (a b : Nat) : Option Nat := if b = 0 then none else some (a / b)

/-- The quotient of two words, rounded up: one more than the other if there is a remainder. -/
def divUp? (bits a b : Nat) : Option Nat := do
  let quotient ← div? a b
  if a % b = 0 then return quotient else add? bits quotient 1

/-- The greatest exponent with which a power of ten is not above a number. -/
def log10? (n : Nat) : Option Nat := if n = 0 then none else some (Nat.log 10 n)

/-- The sum of two words, or the greatest word. -/
def addCapped (bits a b : Nat) : Nat := min (a + b) (2 ^ bits - 1)

/-- The product of two words, or the greatest word. -/
def mulCapped (bits a b : Nat) : Nat := min (a * b) (2 ^ bits - 1)

/-! ## Exact results -/

theorem word?_of_lt {n : Nat} (h : n < 2 ^ bits) : word? bits n = some n := if_pos h

theorem add?_of_lt (h : a + b < 2 ^ bits) : add? bits a b = some (a + b) := word?_of_lt h

/-- A sum that is no word is none. -/
theorem add?_of_le (h : 2 ^ bits ≤ a + b) : add? bits a b = none := if_neg (Nat.not_lt.mpr h)

theorem mul?_of_lt (h : a * b < 2 ^ bits) : mul? bits a b = some (a * b) := word?_of_lt h

theorem pow?_of_lt (h : a ^ b < 2 ^ bits) : pow? bits a b = some (a ^ b) := word?_of_lt h

theorem sub?_of_le (h : b ≤ a) : sub? a b = some (a - b) := if_pos h

theorem div?_of_pos (h : 0 < b) : div? a b = some (a / b) := if_neg (Nat.ne_of_gt h)

/-- A quotient of words can be rounded up if the divisor is not one, since it is no greater than
half of the word then. -/
theorem divUp?_of_lt (hb : 1 < b) (ha : a < 2 ^ bits) :
    divUp? bits a b = some ((a + b - 1) / b) := by
  have hdivided := Nat.div_add_mod' a b
  rw [divUp?, div?_of_pos (by omega)]
  by_cases hrest : a % b = 0
  · have hexact : (a + b - 1) / b = a / b :=
      Nat.div_eq_of_lt_le (by omega) (by rw [Nat.succ_mul]; omega)
    simp [hrest, hexact]
  · have hmod := Nat.mod_lt a (by omega : 0 < b)
    have hhalf : a / b * 2 ≤ a / b * b := Nat.mul_le_mul_left _ hb
    have hup : (a + b - 1) / b = a / b + 1 :=
      Nat.div_eq_of_lt_le (by rw [Nat.succ_mul]; omega) (by rw [Nat.succ_mul, Nat.succ_mul]; omega)
    simp only [Option.bind_eq_bind, Option.bind_some, hrest, if_false, hup]
    exact add?_of_lt (by omega)

/-- The logarithm is one less than the number of digits. -/
theorem log10?_of_pos {n : Nat} (h : 0 < n) :
    log10? n = some ((Nat.toDigits 10 n).length - 1) := by
  have hlog : ∀ k, (Nat.toDigits 10 n).length ≤ k + 1 ↔ Nat.log 10 n ≤ k := fun k => by
    rw [Nat.length_toDigits_le_iff (by decide) (by omega), ← Nat.lt_succ_iff,
      Nat.log_lt_iff_lt_pow (by decide) (by omega)]
  have hfewer := (hlog (Nat.log 10 n)).mpr (Nat.le_refl _)
  have hmore := (hlog ((Nat.toDigits 10 n).length - 1)).mp (by omega)
  rw [log10?, if_neg (by omega)]
  congr 1
  omega

end QuantumBlocks.Number
