import QuantumBlocks.Number.Decimal
import Mathlib.Algebra.GroupWithZero.Nat

/-!
# Magnitudes between powers of two

Rounding to double precision keeps a quotient on its side of every power of two: powers of two are
numbers of the format, and what is dropped of a quotient divides each of them that is as large. So
a product is bounded by adding exponents, whatever rounding does to the last digits.

* `two_pow_le_roundRatio`, `roundRatio_le_two_pow` — rounding beside a power of two
* `two_pow_le_mul`, `mul_le_two_pow` — a product beside a power of two
-/

namespace QuantumBlocks

namespace Number

/-! ## To the nearest natural number -/

/-- Rounding does not go below a number that the quotient reaches. -/
theorem le_roundDiv {num den n : Nat} (hden : 0 < den) (h : n * den ≤ num) :
    n ≤ roundDiv num den :=
  Nat.le_trans ((Nat.le_div_iff_mul_le hden).mpr h) (roundDiv_bounds num den).1

/-- Rounding does not go above a number that the quotient does not exceed. -/
theorem roundDiv_le {num den n : Nat} (hden : 0 < den) (h : num ≤ n * den) :
    roundDiv num den ≤ n := by
  rcases Nat.eq_or_lt_of_le h with rfl | hlt
  · exact Nat.le_of_eq (roundDiv_mul_right n hden)
  · have hquotient : num / den < n := (Nat.div_lt_iff_lt_mul hden).mpr hlt
    have hbound := (roundDiv_bounds num den).2
    omega

namespace Binary64

/-! ## The range of the format -/

theorem one_eq_two_pow : one = 2 ^ Nat.log2 one := by decide +kernel

theorem limit_eq_two_pow : limit = 2 ^ (1024 + Nat.log2 one) := by decide +kernel

theorem one_pos : 0 < one := by decide +kernel

theorem two_pow_mul_one (j : Nat) : 2 ^ j * one = 2 ^ (j + Nat.log2 one) := by
  rw [Nat.pow_add, ← one_eq_two_pow]

theorem two_pow_mul_one_lt_limit {j : Nat} (h : j < 1024) : 2 ^ j * one < limit := by
  rw [two_pow_mul_one, limit_eq_two_pow]
  exact Nat.pow_lt_pow_right (by decide) (Nat.add_lt_add_right h _)

/-! ## To the nearest number of the format -/

section Rounding

variable {num den j : Nat}

/-- A multiple of a power of two that is rounded to reaches what the quotient reaches. -/
theorem le_roundDiv_mul {k : Nat} (hden : 0 < den) (hk : k ≤ j) (h : 2 ^ j * den ≤ num) :
    2 ^ j ≤ roundDiv num (den * 2 ^ k) * 2 ^ k := by
  have hj : 2 ^ j = 2 ^ (j - k) * 2 ^ k := (Nat.pow_sub_mul_pow 2 hk).symm
  have hunit : 2 ^ (j - k) * (den * 2 ^ k) ≤ num := by
    rwa [Nat.mul_comm den, ← Nat.mul_assoc, ← hj]
  have hround := le_roundDiv (Nat.mul_pos hden (Nat.two_pow_pos k)) hunit
  rw [hj]
  exact Nat.mul_le_mul_right _ hround

/-- A multiple of a power of two that is rounded to does not exceed what the quotient does not. -/
theorem roundDiv_mul_le {k : Nat} (hden : 0 < den) (hk : k ≤ j) (h : num ≤ 2 ^ j * den) :
    roundDiv num (den * 2 ^ k) * 2 ^ k ≤ 2 ^ j := by
  have hj : 2 ^ j = 2 ^ (j - k) * 2 ^ k := (Nat.pow_sub_mul_pow 2 hk).symm
  have hunit : num ≤ 2 ^ (j - k) * (den * 2 ^ k) := by
    rwa [Nat.mul_comm den, ← Nat.mul_assoc, ← hj]
  have hround := roundDiv_le (Nat.mul_pos hden (Nat.two_pow_pos k)) hunit
  rw [hj]
  exact Nat.mul_le_mul_right _ hround

/-- **Rounding does not go below a power of two that the quotient reaches.** -/
theorem two_pow_le_roundRatio (hden : 0 < den) (h : 2 ^ j * den ≤ num * one) :
    2 ^ j ≤ roundRatio num den := by
  -- The dropped part divides the greatest power of two that the quotient reaches.
  have hreach : 2 ^ j ≤ num * one / den := (Nat.le_div_iff_mul_le hden).mpr h
  have hpos : num * one / den ≠ 0 := Nat.ne_of_gt (Nat.lt_of_lt_of_le (Nat.two_pow_pos j) hreach)
  have hgreatest : 2 ^ Nat.log2 (num * one / den) * den ≤ num * one :=
    (Nat.le_div_iff_mul_le hden).mp (Nat.log2_self_le hpos)
  calc 2 ^ j ≤ 2 ^ Nat.log2 (num * one / den) :=
        Nat.pow_le_pow_right (by decide) ((Nat.le_log2 hpos).mpr hreach)
    _ ≤ roundRatio num den := le_roundDiv_mul hden (Nat.sub_le _ 52) hgreatest

/-- **Rounding does not go above a power of two that the quotient does not exceed.** -/
theorem roundRatio_le_two_pow (hden : 0 < den) (h : num * one ≤ 2 ^ j * den) :
    roundRatio num den ≤ 2 ^ j := by
  have hquotient : num * one / den < 2 ^ (j + 1) :=
    Nat.lt_of_le_of_lt (Nat.div_le_of_le_mul (by rwa [Nat.mul_comm den]))
      (Nat.pow_lt_pow_right (by decide) (Nat.lt_succ_self j))
  have hlog : Nat.log2 (num * one / den) - 52 ≤ j := by
    rcases Nat.eq_zero_or_pos (num * one / den) with hzero | hpos
    · simp [hzero]
    · have := (Nat.log2_lt (Nat.ne_of_gt hpos)).mpr hquotient
      omega
  exact roundDiv_mul_le hden hlog h

end Rounding

/-! ## Integers and products -/

theorem ofNat_zero : ofNat 0 = 0 := by decide +kernel

theorem two_pow_le_ofNat {n j : Nat} (h : 2 ^ j ≤ n) : 2 ^ j * one ≤ ofNat n := by
  rw [two_pow_mul_one]
  refine two_pow_le_roundRatio Nat.one_pos ?_
  rw [Nat.mul_one, ← two_pow_mul_one]
  exact Nat.mul_le_mul_right one h

theorem ofNat_le_two_pow {n j : Nat} (h : n ≤ 2 ^ j) : ofNat n ≤ 2 ^ j * one := by
  rw [two_pow_mul_one]
  refine roundRatio_le_two_pow Nat.one_pos ?_
  rw [Nat.mul_one, ← two_pow_mul_one]
  exact Nat.mul_le_mul_right one h

/-- The exact product of two powers of two, in the units of the numerator and of the result. -/
theorem two_pow_add_mul_units (i j unit : Nat) :
    2 ^ (i + j) * unit * (unit * unit) = 2 ^ i * unit * (2 ^ j * unit) * unit := by
  rw [Nat.pow_add]
  ac_rfl

theorem two_pow_le_mul {a b i j k : Nat} (ha : 2 ^ i * one ≤ a) (hb : 2 ^ j * one ≤ b)
    (hk : k = i + j) : 2 ^ k * one ≤ mul a b := by
  rw [two_pow_mul_one]
  refine two_pow_le_roundRatio (Nat.mul_pos one_pos one_pos) ?_
  rw [← two_pow_mul_one, hk, two_pow_add_mul_units]
  exact Nat.mul_le_mul_right one (Nat.mul_le_mul ha hb)

theorem mul_le_two_pow {a b i j : Nat} (ha : a ≤ 2 ^ i * one) (hb : b ≤ 2 ^ j * one) :
    mul a b ≤ 2 ^ (i + j) * one := by
  rw [two_pow_mul_one]
  refine roundRatio_le_two_pow (Nat.mul_pos one_pos one_pos) ?_
  rw [← two_pow_mul_one, two_pow_add_mul_units]
  exact Nat.mul_le_mul_right one (Nat.mul_le_mul ha hb)

/-! ## Products of integers -/

theorem log2_add_log2_le {m n : Nat} (hm : 0 < m) (hn : 0 < n) :
    Nat.log2 m + Nat.log2 n ≤ Nat.log2 (m * n) := by
  rw [Nat.le_log2 (Nat.ne_of_gt (Nat.mul_pos hm hn)), Nat.pow_add]
  exact Nat.mul_le_mul (Nat.log2_self_le (Nat.ne_of_gt hm)) (Nat.log2_self_le (Nat.ne_of_gt hn))

/-- Rounding adds at most two binary places to a product of integers. -/
theorem mul_ofNat_le (m n : Nat) :
    mul (ofNat m) (ofNat n) ≤ 2 ^ (Nat.log2 m + Nat.log2 n + 2) * one := by
  have hplaces : Nat.log2 m + Nat.log2 n + 2 = Nat.log2 m + 1 + (Nat.log2 n + 1) := by omega
  rw [hplaces]
  exact mul_le_two_pow (ofNat_le_two_pow (Nat.le_of_lt Nat.lt_log2_self))
    (ofNat_le_two_pow (Nat.le_of_lt Nat.lt_log2_self))

/-! ## Integers of at most three hundred digits -/

theorem log2_le_of_lt_pow_ten {n : Nat} (h : n < Nat.pow 10 300) : Nat.log2 n ≤ 996 := by
  have hlog : Nat.log2 (Nat.pow 10 300) = 996 := by decide +kernel
  rcases Nat.eq_zero_or_pos n with rfl | hn
  · simp
  · rw [← hlog, Nat.le_log2 (Nat.ne_of_gt (Nat.lt_trans hn h))]
    exact Nat.le_trans (Nat.log2_self_le (Nat.ne_of_gt hn)) (Nat.le_of_lt h)

theorem ofNat_lt_limit {n : Nat} (h : n < Nat.pow 10 300) : ofNat n < limit := by
  have hlog := log2_le_of_lt_pow_ten h
  exact Nat.lt_of_le_of_lt (ofNat_le_two_pow (Nat.le_of_lt Nat.lt_log2_self))
    (two_pow_mul_one_lt_limit (by omega))

theorem mul_ofNat_lt_limit {m n : Nat} (hm : 0 < m) (hn : 0 < n) (h : m * n < Nat.pow 10 300) :
    mul (ofNat m) (ofNat n) < limit := by
  have hlog := log2_le_of_lt_pow_ten h
  have hsum := log2_add_log2_le hm hn
  exact Nat.lt_of_le_of_lt (mul_ofNat_le m n) (two_pow_mul_one_lt_limit (by omega))

end Binary64

end Number

end QuantumBlocks
