/-!
# Base 64

Bytes as text over an alphabet of 64 characters: three bytes give four characters, and a shorter
last group is filled up with the padding sign.
-/

namespace QuantumBlocks.Text.Base64

/-! ## The alphabet -/

/-- The character for a number below 64. -/
def letter (n : Nat) : Char :=
  if n < 26 then Char.ofNat ('A'.toNat + n)
  else if n < 52 then Char.ofNat ('a'.toNat + (n - 26))
  else if n < 62 then Char.ofNat ('0'.toNat + (n - 52))
  else if n = 62 then '+' else '/'

/-! ## Encoding -/

/-- The characters for a list of bytes, padding included. -/
def encodeChars : List UInt8 → List Char
  | [] => []
  | [a] => [letter (a.toNat / 4), letter (a.toNat % 4 * 16), '=', '=']
  | [a, b] =>
    [letter (a.toNat / 4), letter (a.toNat % 4 * 16 + b.toNat / 16),
      letter (b.toNat % 16 * 4), '=']
  | a :: b :: c :: rest =>
    letter (a.toNat / 4) :: letter (a.toNat % 4 * 16 + b.toNat / 16)
      :: letter (b.toNat % 16 * 4 + c.toNat / 64) :: letter (c.toNat % 64) :: encodeChars rest

/-- The text for a list of bytes. -/
def encode (bytes : List UInt8) : String := String.ofList (encodeChars bytes)

end QuantumBlocks.Text.Base64
