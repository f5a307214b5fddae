import QuantumBlocks.Number.Decimal
import QuantumBlocks.Number.Places
import QuantumBlocks.Text.Blank

/-!
# Digits that are written and read back

A natural number in base ten is written in ASCII digits, at least one of them, and these read as
the number.

* `readNatural?_toDigits` — the digits of a number read as the number
* `toList_oneDecimal` — a decimal is digits, a point and digits
-/

namespace QuantumBlocks

open Text

namespace Number

theorem isAsciiDigit_of_mem_toDigits {n : Nat} {c : Char} (h : c ∈ Nat.toDigits 10 n) :
    isAsciiDigit c = true := by
  have hc := Nat.isDigit_of_mem_toDigits (by decide) (by decide) h
  simp only [Char.isDigit, Bool.and_eq_true, decide_eq_true_eq] at hc
  simp only [isAsciiDigit, Bool.and_eq_true, decide_eq_true_eq]
  exact hc

/-- A number is written in one digit or more. -/
theorem exists_toDigits_eq_cons (n : Nat) :
    ∃ d ds, Nat.toDigits 10 n = d :: ds ∧ isAsciiDigit d = true := by
  obtain ⟨d, ds, hd⟩ := List.exists_cons_of_ne_nil (Nat.toDigits_ne_nil (n := n) (b := 10))
  exact ⟨d, ds, hd, isAsciiDigit_of_mem_toDigits (n := n) (hd ▸ List.mem_cons_self)⟩

theorem isBlank_of_isAsciiDigit {c : Char} (h : isAsciiDigit c = true) : isBlank c = false := by
  simp only [isAsciiDigit, Bool.and_eq_true, decide_eq_true_eq] at h
  have h1 : 48 ≤ c.toNat := h.1
  have h2 : c.toNat ≤ 57 := h.2
  simp only [isBlank, Bool.or_eq_false_iff, Bool.and_eq_false_iff, decide_eq_false_iff_not,
    beq_eq_false_iff_ne, ne_eq]
  omega

theorem digitValue_le_nine {c : Char} (hc : isAsciiDigit c = true) : digitValue c ≤ 9 := by
  simp only [isAsciiDigit, Bool.and_eq_true, decide_eq_true_eq] at hc
  have hle : c.toNat ≤ '9'.toNat := hc.2
  have hnine : '9'.toNat - '0'.toNat = 9 := by decide
  rw [digitValue]
  omega

theorem isDecimalDigit_of_mem_toDigits {n : Nat} {c : Char} (h : c ∈ Nat.toDigits 10 n) :
    isDecimalDigit c = true :=
  isDecimalDigit_of_isAsciiDigit (isAsciiDigit_of_mem_toDigits h)

/-- What is no digit is none of the digits of a number. -/
theorem not_mem_toDigits {c : Char} (hc : isAsciiDigit c = false) (n : Nat) :
    c ∉ Nat.toDigits 10 n := by
  intro h
  rw [isAsciiDigit_of_mem_toDigits h] at hc
  cases hc

theorem readDigits_toDigits (n : Nat) : readDigits (Nat.toDigits 10 n) = n :=
  Nat.ofDigitChars_ten_toDigits

/-- Digits alone, one or more, are read. -/
theorem readNatural?_of_isAsciiDigit {cs : List Char} (hne : cs ≠ [])
    (h : ∀ c ∈ cs, isAsciiDigit c = true) : readNatural? cs = some (readDigits cs) :=
  if_pos ⟨hne, List.all_eq_true.mpr h⟩

/-- **The digits of a number read as the number.** -/
theorem readNatural?_toDigits (n : Nat) : readNatural? (Nat.toDigits 10 n) = some n := by
  rw [readNatural?_of_isAsciiDigit Nat.toDigits_ne_nil fun c hc =>
    isAsciiDigit_of_mem_toDigits hc, readDigits_toDigits]

/-- A positive number is not written with a zero in front. -/
theorem head?_toDigits_ne_zero {n : Nat} (h : 0 < n) : (Nat.toDigits 10 n).head? ≠ some '0' := by
  induction n using Nat.strongRecOn with
  | ind n ih =>
    rcases Nat.lt_or_ge n 10 with hn | hn
    · rw [Nat.toDigits_of_lt_base hn, List.head?_cons, Ne, Option.some.injEq,
        Nat.digitChar_eq_zero]
      omega
    · obtain ⟨d, ds, hd, -⟩ := exists_toDigits_eq_cons (n / 10)
      have hhead := ih (n / 10) (by omega) (by omega)
      rw [hd] at hhead
      rw [Nat.toDigits_of_base_le (by decide) hn, hd]
      exact hhead

theorem toString_injective : Function.Injective (toString : Nat → String) := by
  intro m n h
  have hdigits : Nat.toDigits 10 m = Nat.toDigits 10 n := String.ofList_injective h
  rw [← readDigits_toDigits m, hdigits, readDigits_toDigits]

theorem toList_oneDecimal (units : Nat) :
    (oneDecimal units).toList
      = Nat.toDigits 10 (tenths units / 10) ++ '.' :: Nat.toDigits 10 (tenths units % 10) := by
  simp [oneDecimal]

end Number

end QuantumBlocks
