import QuantumBlocks.Text.Hidden

/-!
# Quotations

A text between double quotes, for messages. Quotes and backslashes get a backslash, the common
controls their letter, and every other character without a visible form its code point in braces.
-/

namespace QuantumBlocks.Text

/-! ## Hexadecimal -/

/-- A number in base sixteen with lower-case digits. -/
def hex (n : Nat) : String := String.ofList (Nat.toDigits 16 n)

/-- A number in base sixteen, filled up with zeros to `width` digits. -/
def hexPadded (width n : Nat) : String :=
  let digits := Nat.toDigits 16 n
  String.ofList (List.replicate (width - digits.length) '0' ++ digits)

/-! ## Quoting -/

/-- One character of a quotation. -/
def quoteChar (c : Char) : String :=
  if c = '\"' then "\\\""
  else if c = '\\' then "\\\\"
  else if c = '\n' then "\\n"
  else if c = '\r' then "\\r"
  else if c = '\t' then "\\t"
  else if c.toNat = 0 then "\\0"
  else if c.toNat < 0x20 || c.toNat == 0x7F || (0x80 ≤ c.toNat && isHidden c) then
    "\\u\x7b" ++ hex c.toNat ++ "\x7d"
  else c.toString

/-- A text in double quotes with its hidden characters escaped. -/
def quote (s : String) : String :=
  "\"" ++ String.join (s.toList.map quoteChar) ++ "\""

end QuantumBlocks.Text
