import QuantumBlocks.Text.Blank
import QuantumBlocks.Text.Digit

/-!
# Points in time

A date with a time of day, as internet messages write it: `2024-01-02T03:04:05.678+09:00`. Reading
turns the time of day to the zero meridian; writing does so without an offset, with the letter `Z`.

Reading is more generous than writing. A number may have fewer digits than its place, blanks may
stand in front of every number and mark, a year with a sign may have any number of digits, and the
offset may be the word `UTC` or do without its colon. A number that its place cannot hold is a
flaw as soon as it is read; that a month has no such day is found at the end of the text.
-/

namespace QuantumBlocks.Text

/-! ## The calendar -/

/-- A point in time: seconds since the beginning of 1970, and nanoseconds after them. A leap second
is counted as nanoseconds beyond a full second. -/
structure Timestamp where
  seconds : Int
  nanos : Nat
  deriving DecidableEq, Repr, Inhabited

namespace Timestamp

/-- Whether a year has a leap day. -/
def isLeapYear (year : Int) : Bool :=
  year % 4 = 0 && (year % 100 ≠ 0 || year % 400 = 0)

/-- The number of days of a month. -/
def daysInMonth (year : Int) (month : Nat) : Nat :=
  if month = 2 then if isLeapYear year then 29 else 28
  else if month = 4 ∨ month = 6 ∨ month = 9 ∨ month = 11 then 30
  else 31

/-- The number of days from the beginning of 1970 to the beginning of a year. -/
def daysBeforeYear (year : Int) : Int :=
  let past := year - 1
  365 * (year - 1970) + (past.fdiv 4 - past.fdiv 100 + past.fdiv 400) - 477

/-- The number of days of a year before a month. -/
def daysBeforeMonth (year : Int) (month : Nat) : Nat :=
  (List.range (month - 1)).foldl (fun days m => days + daysInMonth year (m + 1)) 0

/-- The number of days from the beginning of 1970 to a date. -/
def dayNumber (year : Int) (month day : Nat) : Int :=
  daysBeforeYear year + daysBeforeMonth year month + (day - 1 : Nat)

/-- The year of a day: 400 years have 146097 days, so the quotient misses it by one at most. -/
def yearOfDay (number : Int) : Int :=
  let guess := 1970 + (number * 400).fdiv 146097
  if number < daysBeforeYear guess then guess - 1
  else if daysBeforeYear (guess + 1) ≤ number then guess + 1
  else guess

/-- The month of a day of a year, counted from zero, and the day of the month. -/
def monthOfDay (year : Int) (inYear : Nat) : Nat × Nat :=
  let month := ((List.range 12).filter fun m => daysBeforeMonth year (m + 1) ≤ inYear).length
  (month, inYear - daysBeforeMonth year month + 1)

/-! ## Writing -/

/-- A number with zeros in front of it up to a width. -/
def padded (width n : Nat) : String :=
  let digits := Nat.toDigits 10 n
  String.ofList (List.replicate (width - digits.length) '0' ++ digits)

/-- The fraction of a second with three, six or nine digits, as many as it needs. -/
def fractionText (nanos : Nat) : String :=
  if nanos = 0 then ""
  else if nanos % 1000000 = 0 then "." ++ padded 3 (nanos / 1000000)
  else if nanos % 1000 = 0 then "." ++ padded 6 (nanos / 1000)
  else "." ++ padded 9 nanos

/-- The year, with a sign where it has not four digits. -/
def yearText (year : Int) : String :=
  if 0 ≤ year ∧ year ≤ 9999 then padded 4 year.toNat
  else (if year < 0 then "-" else "+") ++ padded 4 year.natAbs

/-- A point in time in text. -/
def render (t : Timestamp) : String :=
  let day := t.seconds.fdiv 86400
  let inDay := (t.seconds.fmod 86400).toNat
  let year := yearOfDay day
  let (month, date) := monthOfDay year (day - daysBeforeYear year).toNat
  let carried := t.nanos / 1000000000
  yearText year ++ "-" ++ padded 2 month ++ "-" ++ padded 2 date ++ "T" ++ padded 2 (inDay / 3600)
    ++ ":" ++ padded 2 (inDay / 60 % 60) ++ ":" ++ padded 2 (inDay % 60 + carried)
    ++ fractionText (t.nanos % 1000000000) ++ "Z"

/-! ## Reading -/

/-- The reasons for which a text is no point in time. -/
inductive Flaw where
  | outOfRange
  | impossible
  | invalid
  | tooShort
  | tooLong
  deriving DecidableEq

/-- A flaw in words. -/
def Flaw.message : Flaw → String
  | .outOfRange => "input is out of range"
  | .impossible => "no possible date and time matching input"
  | .invalid => "input contains invalid characters"
  | .tooShort => "premature end of input"
  | .tooLong => "trailing input"

/-- A number off the front of a text, of at most `most` digits if that is given. -/
def readNumber (most : Option Nat) (cs : List Char) : Except Flaw (Nat × List Char) :=
  let digits := ((most.map cs.take).getD cs).takeWhile isAsciiDigit
  if digits = [] then .error (if cs = [] then .tooShort else .invalid)
  else .ok (readDigits digits, cs.drop digits.length)

/-- A number of one or two digits between two bounds, after blanks. -/
def readPart (low high : Nat) (cs : List Char) : Except Flaw (Nat × List Char) := do
  let (n, rest) ← readNumber (some 2) (dropBlank cs)
  if n < low ∨ high < n then throw .outOfRange
  return (n, rest)

/-- The years of 32 bits, which are those that can be read. -/
def isYear (year : Int) : Bool := -Int.pow 2 31 ≤ year && year < Int.pow 2 31

/-- A year after blanks: at most four digits, or a sign and any number of them. -/
def readYear (cs : List Char) : Except Flaw (Int × List Char) := do
  let (year, rest) ←
    match dropBlank cs with
    | '-' :: digits => (readNumber none digits).map fun found => (-(found.1 : Int), found.2)
    | '+' :: digits => (readNumber none digits).map fun found => ((found.1 : Int), found.2)
    | digits => (readNumber (some 4) digits).map fun found => ((found.1 : Int), found.2)
  if isYear year then return (year, rest) else throw .outOfRange

/-- A character off the front of a text. -/
def readMark (mark : Char → Bool) (cs : List Char) : Except Flaw (List Char) :=
  match cs with
  | [] => .error .tooShort
  | c :: rest => if mark c then .ok rest else .error .invalid

/-- The fraction of a second off the front of a text, in nanoseconds; further digits are cut. -/
def readFraction (cs : List Char) : Except Flaw (Nat × List Char) :=
  match cs with
  | '.' :: rest =>
    let digits := rest.takeWhile isAsciiDigit
    if digits = [] then .error (if rest = [] then .tooShort else .invalid)
    else
      let kept := digits.take 9
      .ok (readDigits kept * Nat.pow 10 (9 - kept.length), rest.drop digits.length)
  | cs => .ok (0, cs)

/-- Exactly two digits off the front of a text. A text is too short for them when it has less than
two bytes. -/
def readTwoDigits (cs : List Char) : Except Flaw (Nat × List Char) :=
  match cs with
  | a :: b :: rest =>
    if isAsciiDigit a && isAsciiDigit b then .ok (readDigits [a, b], rest) else .error .invalid
  | [c] => .error (if c.utf8Size < 2 then .tooShort else .invalid)
  | [] => .error .tooShort

/-- The sign of an offset off the front of a text, and whether it is a minus, which may also be
the minus sign of mathematics. -/
def readOffsetSign (cs : List Char) : Except Flaw (Bool × List Char) :=
  match cs with
  | [] => .error .tooShort
  | c :: rest =>
    if c = '+' then .ok (false, rest)
    else if c = '-' ∨ c = '−' then .ok (true, rest)
    else .error .invalid

/-- Hours and minutes of an offset in seconds, with any colons and blanks between them. -/
def readOffsetTime (cs : List Char) : Except Flaw (Int × List Char) := do
  let (hours, rest) ← readTwoDigits cs
  let (minutes, rest) ← readTwoDigits (rest.dropWhile fun c => c = ':' || isBlank c)
  if 59 < minutes then throw .outOfRange
  return (hours * 3600 + minutes * 60, rest)

/-- The offset from the zero meridian off the front of a text, in seconds: a word for none, or a
sign with a time. -/
def readOffset (cs : List Char) : Except Flaw (Int × List Char) := do
  if (cs.take 3).map Char.toUpper = ['U', 'T', 'C'] then return (0, cs.drop 3)
  if (cs.take 1).map Char.toUpper = ['Z'] then return (0, cs.drop 1)
  let (negative, rest) ← readOffsetSign cs
  let (seconds, rest) ← readOffsetTime rest
  return (if negative then -seconds else seconds, rest)

/-- The years with a calendar. -/
def hasCalendar (year : Int) : Bool := -262143 ≤ year && year ≤ 262142

/-- The date and the time of day at an offset, as a point in time; at the zero meridian it has to
be in a year with a calendar as well. -/
def ofCivil (year : Int) (month day hour minute second nanos : Nat) (offset : Int) :
    Except Flaw Timestamp :=
  if !hasCalendar year || daysInMonth year month < day then .error .outOfRange
  else if offset ≤ -86400 ∨ 86400 ≤ offset then .error .outOfRange
  else
    let inDay := hour * 3600 + minute * 60 + min second 59
    let seconds := dayNumber year month day * 86400 + inDay - offset
    if hasCalendar (yearOfDay (seconds.fdiv 86400)) then
      .ok ⟨seconds, nanos + if second = 60 then 1000000000 else 0⟩
    else .error .impossible

/-- Reads a point in time from a whole text. -/
def read (s : String) : Except Flaw Timestamp := do
  let (year, rest) ← readYear s.toList
  let rest ← readMark (· = '-') (dropBlank rest)
  let (month, rest) ← readPart 1 12 rest
  let rest ← readMark (· = '-') (dropBlank rest)
  let (day, rest) ← readPart 1 31 rest
  let rest ← readMark (fun c => c = 'T' || c = 't' || c = ' ') rest
  let (hour, rest) ← readPart 0 23 rest
  let rest ← readMark (· = ':') (dropBlank rest)
  let (minute, rest) ← readPart 0 59 rest
  let rest ← readMark (· = ':') (dropBlank rest)
  let (second, rest) ← readPart 0 60 rest
  let (nanos, rest) ← readFraction rest
  let (offset, rest) ← readOffset (dropBlank rest)
  if dropBlank rest ≠ [] then throw .tooLong
  ofCivil year month day hour minute second nanos offset

end Timestamp

end QuantumBlocks.Text
