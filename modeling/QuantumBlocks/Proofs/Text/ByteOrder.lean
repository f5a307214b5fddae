import Mathlib.Data.List.Basic

/-!
# The order of texts and of their bytes

Texts are compared character by character. Comparing the bytes of their UTF-8 form gives the same
order: where two characters differ, the bytes of the lesser one are less at the first place where
they differ, and what comes after that place does not matter.

* `utf8EncodeChar_append_lt` — a lesser character has lesser bytes
* `utf8Bytes_lt_iff` — the order of bytes is the order of texts
-/

namespace QuantumBlocks

/-- The bytes of a text in UTF-8. -/
def utf8Bytes (s : String) : List UInt8 := s.toUTF8.data.toList

theorem utf8Bytes_eq_flatMap (s : String) :
    utf8Bytes s = s.toList.flatMap String.utf8EncodeChar := by
  have hs : s.toByteArray = s.toList.utf8Encode := by
    rw [← String.toByteArray_ofList, String.ofList_toList]
  rw [utf8Bytes, String.toUTF8_eq_toByteArray, hs, List.utf8Encode, List.data_toByteArray]

/-! ## One character -/

theorem toNat_lt_of_char (c : Char) : c.toNat < 0x110000 := by
  have hvalid := c.valid
  simp only [UInt32.isValidChar, Nat.isValidChar] at hvalid
  show c.val.toNat < 0x110000
  omega

/-- The four forms of a character in UTF-8, by its code point. -/
theorem utf8EncodeChar_cases (c : Char) :
    (c.toNat < 0x80 ∧ String.utf8EncodeChar c = [UInt8.ofNat c.toNat]) ∨
    (0x80 ≤ c.toNat ∧ c.toNat < 0x800 ∧ String.utf8EncodeChar c =
      [UInt8.ofNat (c.toNat / 64 + 192), UInt8.ofNat (c.toNat % 64 + 128)]) ∨
    (0x800 ≤ c.toNat ∧ c.toNat < 0x10000 ∧ String.utf8EncodeChar c =
      [UInt8.ofNat (c.toNat / 64 / 64 + 224), UInt8.ofNat (c.toNat / 64 % 64 + 128),
        UInt8.ofNat (c.toNat % 64 + 128)]) ∨
    (0x10000 ≤ c.toNat ∧ String.utf8EncodeChar c =
      [UInt8.ofNat (c.toNat / 64 / 64 / 64 + 240), UInt8.ofNat (c.toNat / 64 / 64 % 64 + 128),
        UInt8.ofNat (c.toNat / 64 % 64 + 128), UInt8.ofNat (c.toNat % 64 + 128)]) := by
  have hmax := toNat_lt_of_char c
  simp only [String.utf8EncodeChar, Char.toNat_val, Nat.div_div_eq_div_mul]
  split
  · exact Or.inl ⟨by omega, rfl⟩
  · split
    · have hfirst : c.toNat / 64 % 32 = c.toNat / 64 := Nat.mod_eq_of_lt (by omega)
      rw [hfirst]
      exact Or.inr (Or.inl ⟨by omega, by omega, rfl⟩)
    · split
      · have hfirst : c.toNat / 4096 % 16 = c.toNat / 4096 := Nat.mod_eq_of_lt (by omega)
        rw [hfirst]
        exact Or.inr (Or.inr (Or.inl ⟨by omega, by omega, rfl⟩))
      · have hfirst : c.toNat / 262144 % 8 = c.toNat / 262144 := Nat.mod_eq_of_lt (by omega)
        rw [hfirst]
        exact Or.inr (Or.inr (Or.inr ⟨by omega, rfl⟩))

/-- A number is less than another if its leading digits are less, or if they are the same and its
last digit is less. -/
theorem div_lt_or_mod_lt {m n : Nat} (h : m < n) :
    m / 64 < n / 64 ∨ m / 64 = n / 64 ∧ m % 64 < n % 64 := by
  omega

/-- **A lesser character has lesser bytes**, whatever comes after the two. -/
theorem utf8EncodeChar_append_lt {c d : Char} (h : c < d) (x y : List UInt8) :
    String.utf8EncodeChar c ++ x < String.utf8EncodeChar d ++ y := by
  have hlt : c.toNat < d.toNat := h
  have hmax := toNat_lt_of_char d
  have hlast := div_lt_or_mod_lt hlt
  have hmiddle := @div_lt_or_mod_lt (c.toNat / 64) (d.toNat / 64)
  have hfirst := @div_lt_or_mod_lt (c.toNat / 64 / 64) (d.toNat / 64 / 64)
  -- The first byte tells the form, and within one form the bytes are digits in base 64.
  rcases utf8EncodeChar_cases c with ⟨hc, hc'⟩ | ⟨hc, hc₂, hc'⟩ | ⟨hc, hc₂, hc'⟩ | ⟨hc, hc'⟩ <;>
    rcases utf8EncodeChar_cases d with ⟨hd, hd'⟩ | ⟨hd, hd₂, hd'⟩ | ⟨hd, hd₂, hd'⟩ | ⟨hd, hd'⟩ <;>
    rw [hc', hd'] <;>
    simp only [List.cons_append, List.nil_append, List.cons_lt_cons_iff, UInt8.lt_iff_toNat_lt,
      ← UInt8.toNat_inj, UInt8.toNat_ofNat'] <;>
    omega

/-! ## Texts -/

theorem flatMap_utf8EncodeChar_lt {cs ds : List Char} (h : cs < ds) :
    cs.flatMap String.utf8EncodeChar < ds.flatMap String.utf8EncodeChar := by
  induction h with
  | nil =>
    rw [List.flatMap_nil, List.flatMap_cons]
    obtain ⟨b, bs, hb⟩ := List.exists_cons_of_ne_nil String.utf8EncodeChar_ne_nil
    rw [hb]
    exact List.nil_lt_cons _ _
  | cons _ ih =>
    rw [List.flatMap_cons, List.flatMap_cons]
    exact List.append_left_lt ih
  | rel hlt =>
    rw [List.flatMap_cons, List.flatMap_cons]
    exact utf8EncodeChar_append_lt hlt _ _

/-- **The order of bytes is the order of texts.** -/
theorem utf8Bytes_lt_iff {s t : String} : utf8Bytes s < utf8Bytes t ↔ s < t := by
  rw [utf8Bytes_eq_flatMap, utf8Bytes_eq_flatMap, String.lt_iff]
  constructor
  · intro h
    by_contra hnot
    rcases List.le_iff_lt_or_eq.mp (List.not_lt.mp hnot) with hlt | heq
    · exact List.lt_asymm h (flatMap_utf8EncodeChar_lt hlt)
    · rw [heq] at h
      exact List.lt_irrefl _ h
  · exact flatMap_utf8EncodeChar_lt

end QuantumBlocks
