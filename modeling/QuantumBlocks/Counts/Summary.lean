import QuantumBlocks.Counts.Basic
import QuantumBlocks.Number.Places

/-!
# The summary of counts

The most frequent outcomes in one line, each with its number and its share of all shots. The share
is rounded to double precision at every step: both numbers, their quotient, and its hundredfold.
-/

namespace QuantumBlocks

open Number

/-! ## Shares -/

/-- The share of `total` that `count` makes, in percent; of no total it makes none. -/
def percentage (count total : Nat) : Nat :=
  if total = 0 then 0
  else
    Binary64.mul (Binary64.div (Binary64.ofNat count) (Binary64.ofNat total))
      (Binary64.ofNat 100)

/-! ## Summaries -/

namespace Counts

/-- How many outcomes a summary lists. -/
def summaryLength : Nat := 5

/-- The outcomes that a summary lists. -/
def leaders (c : Counts) : List (String × Nat) := c.ranked.take summaryLength

/-- One outcome of a summary. -/
def summaryEntry (total : Nat) (entry : String × Nat) : String :=
  "|" ++ entry.1 ++ ">: " ++ toString entry.2 ++ " (" ++ oneDecimal (percentage entry.2 total)
    ++ "%)"

/-- The most frequent outcomes with their shares of `total`. -/
def summary (c : Counts) (total : Nat) : String :=
  if c.isEmpty then "No results"
  else String.intercalate ", " (c.leaders.map (summaryEntry total))

end Counts

end QuantumBlocks
