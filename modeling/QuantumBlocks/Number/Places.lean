import QuantumBlocks.Number.Binary64

/-!
# A fixed count of decimal places

A magnitude with one digit after the point. The exact value is rounded once, and a value halfway
between two tenths goes to the even one.
-/

namespace QuantumBlocks.Number

/-- The number of tenths nearest to a magnitude. -/
def tenths (units : Nat) : Nat := roundDiv (units * 10) Binary64.one

/-- The magnitude with one digit after the point. -/
def oneDecimal (units : Nat) : String :=
  toString (tenths units / 10) ++ "." ++ toString (tenths units % 10)

end QuantumBlocks.Number
