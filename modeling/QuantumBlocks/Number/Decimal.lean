import QuantumBlocks.Number.Binary64
import QuantumBlocks.Text.Digit

/-!
# Numbers in decimal notation

Reading the notation that people type: an optional sign, digits, and for a decimal number also a
point, a fraction and an exponent. A decimal is kept exact and rounded to double precision once.
-/

namespace QuantumBlocks.Number

open Text

/-! ## Signs -/

/-- The sign at the front of a text, and the text after it. -/
def splitSign : List Char → Bool × List Char
  | '-' :: rest => (true, rest)
  | '+' :: rest => (false, rest)
  | cs => (false, cs)

/-- A natural number with a sign. -/
def applySign (negative : Bool) (n : Nat) : Int := if negative then -(n : Int) else (n : Int)

/-! ## Integers -/

/-- The number that a text of ASCII digits writes; other texts and the empty one write none. -/
def readNatural? (cs : List Char) : Option Nat :=
  if cs ≠ [] ∧ cs.all isAsciiDigit then some (readDigits cs) else none

/-- The number of a signed word that a text writes as an optional sign and digits. -/
def readSigned64? (cs : List Char) : Option Int :=
  let (negative, digits) := splitSign cs
  match readNatural? digits with
  | some n =>
    let value := applySign negative n
    if fitsSigned64 value then some value else none
  | none => none

/-! ## Decimals -/

/-- A decimal number: `coefficient * 10 ^ exponent` with a sign. -/
structure Decimal where
  negative : Bool
  coefficient : Nat
  exponent : Int
  deriving DecidableEq, Repr

namespace Decimal

/-- The exponent that a text after its mark writes, and no exponent for no text. -/
def readExponent? (cs : List Char) : Option Int :=
  match cs with
  | [] => some 0
  | mark :: rest =>
    if mark = 'e' ∨ mark = 'E' then
      let (negative, digits) := splitSign rest
      (readNatural? digits).map (applySign negative)
    else none

/-- The text at and after a point, split into fraction digits and the text after them. -/
def splitFraction : List Char → List Char × List Char
  | '.' :: rest => (rest.takeWhile isAsciiDigit, rest.dropWhile isAsciiDigit)
  | cs => ([], cs)

/-- Reads a sign, digits with an optional point among or around them, and an exponent. -/
def read? (cs : List Char) : Option Decimal :=
  let (negative, unsigned) := splitSign cs
  let whole := unsigned.takeWhile isAsciiDigit
  let (fraction, tail) := splitFraction (unsigned.dropWhile isAsciiDigit)
  if whole = [] ∧ fraction = [] then none
  else
    (readExponent? tail).map fun exponent =>
      { negative
        coefficient := readDigits (whole ++ fraction)
        exponent := exponent - fraction.length }

/-- The number of digits of the coefficient. -/
def digitCount (d : Decimal) : Nat := (Nat.toDigits 10 d.coefficient).length

/-- The exact value as a quotient of natural numbers. -/
def ratio (d : Decimal) : Nat × Nat :=
  if d.exponent < 0 then (d.coefficient, Nat.pow 10 d.exponent.natAbs)
  else (d.coefficient * Nat.pow 10 d.exponent.natAbs, 1)

/-- The nearest number in double precision, none where it is beyond all finite ones. Magnitudes
from `10 ^ 310` on are beyond them, and those below `10 ^ -330` are nearest to zero, so no larger
power of ten is ever written out. -/
def toBinary64? (d : Decimal) : Option Binary64 :=
  let leading := d.exponent + d.digitCount
  if d.coefficient = 0 ∨ leading < -330 then some ⟨d.negative, 0⟩
  else if 310 < leading then none
  else
    let (num, den) := d.ratio
    let units := Binary64.roundRatio num den
    if units < Binary64.limit then some ⟨d.negative, units⟩ else none

end Decimal

end QuantumBlocks.Number
