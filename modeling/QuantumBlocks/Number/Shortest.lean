import QuantumBlocks.Number.Binary64

/-!
# The fewest digits that read back

Every decimal number in an interval around a double-precision number rounds to it. For one, two,
three and more digits the two decimal neighbours of the number are tested against that interval;
the first count of digits with a neighbour inside wins, and of two neighbours the nearer.
-/

namespace QuantumBlocks.Number

/-! ## The interval of a number -/

/-- The decimals that round to a number lie between `low` and `high`, counted in quarters of a
unit; the ends belong to them when the number is even among its neighbours. -/
structure Interval where
  low : Nat
  high : Nat
  closed : Bool

/-- The interval of decimals that round to a magnitude. -/
def intervalOf (units : Nat) : Interval :=
  let gap := Nat.pow 2 (Nat.log2 units - 52)
  let below := if units = Nat.pow 2 52 * gap ∧ 1 < gap then gap / 2 else gap
  { low := 4 * units - 2 * below
    high := 4 * units + 2 * gap
    closed := units / gap % 2 = 0 }

/-- Whether the quotient `num / den`, in quarters of a unit, lies in the interval. -/
def Interval.contains (i : Interval) (num den : Nat) : Bool :=
  if i.closed then i.low * den ≤ num && num ≤ i.high * den
  else i.low * den < num && num < i.high * den

/-! ## Decimal neighbours -/

/-- The power of ten above a positive magnitude: `10 ^ (k - 1) ≤ units / one < 10 ^ k`. -/
def decimalExponent (units : Nat) : Int :=
  let whole := Binary64.floor units
  if 0 < whole then ((Nat.toDigits 10 whole).length : Int)
  else
    match (List.range 400).find? fun j => Binary64.one ≤ units * Nat.pow 10 (j + 1) with
    | some j => -(j : Int)
    | none => -400

/-- The neighbour of the number on the grid of decimals with `count` digits, if one of the two
neighbours rounds to the number; `step` is the exponent of the last digit. -/
def neighbour? (units : Nat) (step : Int) : Option Nat :=
  let up := Nat.pow 10 step.toNat
  let down := Nat.pow 10 (-step).toNat
  let exact := units * down
  let grid := Binary64.one * up
  let lower := exact / grid
  let i := intervalOf units
  let inside n := i.contains (4 * n * grid) down
  match inside lower, inside (lower + 1) with
  | true, true =>
    let rest := 2 * (exact % grid)
    if rest < grid ∨ (rest = grid ∧ lower % 2 = 0) then some lower else some (lower + 1)
  | true, false => some lower
  | false, true => some (lower + 1)
  | false, false => none

/-! ## Digits -/

/-- A decimal number as its digits without zeros at the end, and the exponent of the first one. -/
structure Digits where
  digits : List Char
  exponent : Int

/-- The digits of `n`, whose last digit has the exponent `step`. -/
def digitsOf (n : Nat) (step : Int) : Digits :=
  let all := Nat.toDigits 10 n
  { digits := (all.reverse.dropWhile (· == '0')).reverse
    exponent := step + all.length - 1 }

/-- The fewest digits that read back as a positive magnitude. -/
def shortestDigits (units : Nat) : Digits :=
  let top := decimalExponent units
  let steps := (List.range 17).map fun (count : Nat) => top - (count + 1 : Nat)
  match steps.findSome? fun step => (neighbour? units step).map fun n => (n, step) with
  | some (n, step) => digitsOf n step
  | none => digitsOf (Binary64.floor units) 0

/-! ## Spelling -/

/-- How a number is written: which exponents of the first digit are written with a point in place,
all others being written with an exponent and its sign. -/
structure Spelling where
  least : Int
  greatest : Int

/-- Numbers from `0.00001` on and below `10 ^ 16` are written without an exponent. -/
def plainSpelling : Spelling := ⟨-5, 15⟩

/-- The digits with a point in place and at least one digit on both sides of it. -/
def Digits.positional (d : Digits) : List Char :=
  if d.exponent < 0 then
    '0' :: '.' :: (List.replicate (d.exponent.natAbs - 1) '0' ++ d.digits)
  else
    let wholeLength := d.exponent.toNat + 1
    let whole := d.digits.take wholeLength
    let fraction := d.digits.drop wholeLength
    whole ++ List.replicate (wholeLength - whole.length) '0'
      ++ '.' :: (if fraction = [] then ['0'] else fraction)

/-- The digits with a point after the first one and an exponent. -/
def Digits.scientific (d : Digits) : List Char :=
  let mantissa :=
    match d.digits with
    | first :: second :: rest => first :: '.' :: second :: rest
    | short => short
  mantissa ++ 'e' :: (if d.exponent < 0 then '-' else '+') :: Nat.toDigits 10 d.exponent.natAbs

/-- The fewest digits that read back, in the given spelling. -/
def Binary64.write (style : Spelling) (x : Binary64) : String :=
  let sign := if x.negative then ['-'] else []
  if x.units = 0 then String.ofList (sign ++ ['0', '.', '0'])
  else
    let d := shortestDigits x.units
    let plain := style.least ≤ d.exponent && d.exponent ≤ style.greatest
    String.ofList (sign ++ if plain then d.positional else d.scientific)

/-- The usual text of a number. -/
def Binary64.text (x : Binary64) : String := x.write plainSpelling

end QuantumBlocks.Number
