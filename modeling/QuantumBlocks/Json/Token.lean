import QuantumBlocks.Json.Fault
import QuantumBlocks.Number.Decimal

/-!
# The tokens of JSON

Words, numbers and strings are taken off the front of a text. A reader returns the token with the
text that is left, which is shorter than the text it got, or the fault that stopped it. A number
is put together from its digits the way a reader with one 64-bit word does it: digits are gathered
until the next one would not fit, and the result is scaled by one power of ten.
-/

namespace QuantumBlocks.Json

open Number Text

/-! ## Readers -/

/-- A text shorter than `n`. -/
abbrev Shorter (n : Nat) := { rest : List Char // rest.length < n }

/-- Takes a value off the front of a text. -/
abbrev Reader (α : Type) := (cs : List Char) → Except Fault (α × Shorter cs.length)

/-- A text shorter than `m` is shorter than a greater number. -/
def Shorter.weaken {m n : Nat} (h : m ≤ n) (rest : Shorter m) : Shorter n :=
  ⟨rest.1, Nat.lt_of_lt_of_le rest.2 h⟩

theorem length_le_self (cs : List Char) : cs.length ≤ cs.length := Nat.le_refl _

theorem length_le_cons (c : Char) (rest : List Char) : rest.length ≤ (c :: rest).length :=
  Nat.le_succ _

theorem length_lt_cons (c : Char) (rest : List Char) : rest.length < (c :: rest).length :=
  Nat.lt_succ_self _

theorem length_cons_le {rest cs : List Char} (c : Char) (h : rest.length < cs.length) :
    (c :: rest).length ≤ cs.length := h

theorem length_lt_trans {as bs cs : List Char} (h : as.length < bs.length)
    (h' : bs.length < cs.length) : as.length < cs.length := Nat.lt_trans h h'

theorem length_lt_of_lt {as bs : List Char} {n : Nat} (h : as.length < bs.length)
    (h' : bs.length < n) : as.length < n := Nat.lt_trans h h'

theorem length_lt_of_lt_succ {as bs : List Char} {n : Nat} (h : as.length < bs.length.succ)
    (h' : bs.length < n) : as.length < n := Nat.lt_of_le_of_lt (Nat.le_of_lt_succ h) h'

/-! ## Blanks -/

/-- The blanks of JSON. -/
def isSpace (c : Char) : Bool := c = ' ' || c = '\n' || c = '\t' || c = '\r'

/-- The text without the blanks at its front. -/
def skipSpace (cs : List Char) : List Char := cs.dropWhile isSpace

theorem length_skipSpace_le (cs : List Char) : (skipSpace cs).length ≤ cs.length :=
  (List.dropWhile_suffix isSpace).length_le

theorem length_lt_of_skipSpace {cs rest : List Char} {c : Char} (h : skipSpace cs = c :: rest) :
    rest.length < cs.length := by
  have := length_skipSpace_le cs
  rw [h, List.length_cons] at this
  omega

/-! ## Words -/

/-- Takes the letters of a word off the front of a text. -/
def readLetters (word : List Char) (cs : List Char) :
    Except Fault { rest : List Char // rest.length ≤ cs.length } :=
  match word, cs with
  | [], cs => .ok ⟨cs, Nat.le_refl _⟩
  | _ :: _, [] => .error (.here .endInValue [])
  | letter :: word, c :: rest =>
    if c = letter then
      match readLetters word rest with
      | .ok ⟨left, h⟩ => .ok ⟨left, Nat.le_succ_of_le h⟩
      | .error fault => .error fault
    else .error (.next .wordExpected (c :: rest))

/-! ## Numbers -/

/-- A number as it is written: its sign, its digits before and after the point, and its exponent,
each part that is missing being empty. -/
structure Literal where
  negative : Bool
  whole : List Char
  fraction : List Char := []
  exponent : Option (Bool × List Char) := none

/-- The digits at the front of a text and the text after them. -/
def spanDigits (cs : List Char) : List Char × { rest : List Char // rest.length ≤ cs.length } :=
  (cs.takeWhile isAsciiDigit,
    ⟨cs.dropWhile isAsciiDigit, (List.dropWhile_suffix isAsciiDigit).length_le⟩)

/-- One digit or more, the end of the text being a fault of its own. -/
def readDigitRun (cs : List Char) : Except Fault (List Char × Shorter cs.length) :=
  match cs with
  | [] => .error (.here .endInValue [])
  | c :: rest =>
    if isAsciiDigit c then
      let (digits, left) := spanDigits rest
      .ok (c :: digits, ⟨left.1, Nat.lt_succ_of_le left.2⟩)
    else .error (.next .badNumber (c :: rest))

/-- The digits before the point: a zero, or digits that do not begin with one. -/
def readWhole (cs : List Char) : Except Fault (List Char × Shorter cs.length) :=
  match cs with
  | '0' :: c :: rest =>
    if isAsciiDigit c then .error (.next .badNumber (c :: rest))
    else .ok (['0'], ⟨c :: rest, by simp⟩)
  | cs => readDigitRun cs

/-- A point with its digits, if there is one. -/
def readFraction (cs : List Char) :
    Except Fault (List Char × { rest : List Char // rest.length ≤ cs.length }) :=
  match cs with
  | '.' :: rest =>
    match readDigitRun rest with
    | .ok (digits, ⟨left, h⟩) => .ok (digits, ⟨left, by simp; omega⟩)
    | .error fault => .error fault
  | cs => .ok ([], ⟨cs, Nat.le_refl _⟩)

/-- The sign of an exponent, and the text after it. -/
def splitExponentSign (cs : List Char) : Bool × { rest : List Char // rest.length ≤ cs.length } :=
  match cs with
  | '-' :: rest => (true, ⟨rest, by simp⟩)
  | '+' :: rest => (false, ⟨rest, by simp⟩)
  | cs => (false, ⟨cs, Nat.le_refl _⟩)

/-- An exponent with its mark, if there is one. -/
def readExponent (cs : List Char) :
    Except Fault
      (Option (Bool × List Char) × { rest : List Char // rest.length ≤ cs.length }) :=
  match cs with
  | [] => .ok (none, ⟨[], Nat.le_refl _⟩)
  | mark :: tail =>
    if mark = 'e' ∨ mark = 'E' then
      let (negative, ⟨digits, hd⟩) := splitExponentSign tail
      match readDigitRun digits with
      | .ok (run, ⟨left, h⟩) => .ok (some (negative, run), ⟨left, by simp; omega⟩)
      | .error fault => .error fault
    else .ok (none, ⟨mark :: tail, Nat.le_refl _⟩)

/-- A number as it is written, after its sign. -/
def readUnsigned (negative : Bool) (cs : List Char) :
    Except Fault (Literal × Shorter cs.length) :=
  match readWhole cs with
  | .error fault => .error fault
  | .ok (whole, ⟨r, h⟩) =>
    match readFraction r with
    | .error fault => .error fault
    | .ok (fraction, ⟨r', h'⟩) =>
      match readExponent r' with
      | .error fault => .error fault
      | .ok (exponent, ⟨r'', h''⟩) =>
        .ok ({ negative, whole, fraction, exponent }, ⟨r'', by omega⟩)

/-- A number as it is written. -/
def readLiteral (cs : List Char) : Except Fault (Literal × Shorter cs.length) :=
  match cs with
  | '-' :: rest =>
    match readUnsigned true rest with
    | .ok (literal, left) => .ok (literal, left.weaken (by simp))
    | .error fault => .error fault
  | cs => readUnsigned false cs

/-! ## The value of a number -/

/-- Gathers digits while the number stays below `limit`; returns it with the digits left over. -/
def gather (limit n : Nat) : List Char → Nat × List Char
  | [] => (n, [])
  | c :: rest =>
    if 10 * n + digitValue c < limit then gather limit (10 * n + digitValue c) rest
    else (n, c :: rest)

/-- Divides by a power of ten in steps of at most `10 ^ 308`, rounding after each. -/
def scaleDown (units exponent : Nat) : Nat :=
  if units = 0 then 0
  else if exponent ≤ 308 then Binary64.div units (Binary64.powerOfTen exponent)
  else scaleDown (Binary64.div units (Binary64.powerOfTen 308)) (exponent - 308)
termination_by exponent

/-- Scales a number by a power of ten; none where the result is beyond all finite numbers. -/
def scale (n : Nat) (exponent : Int) : Option Nat :=
  let units := Binary64.ofNat n
  if exponent < 0 then some (scaleDown units exponent.natAbs)
  else if units = 0 then some 0
  else if exponent ≤ 308 then
    let product := Binary64.mul units (Binary64.powerOfTen exponent.natAbs)
    if product < Binary64.limit then some product else none
  else none

/-- The value of a literal, or how many of its exponent digits follow the one that makes it too
large for every finite number. Only a literal without point and exponent whose digits fit a word
is an integer, and a negative zero is none. -/
def Literal.value (l : Literal) : Except Nat Numeral :=
  let (leading, dropped) := gather (Nat.pow 2 64) 0 l.whole
  let double units : Numeral := .double ⟨l.negative, units⟩
  let scaled n exponent : Except Nat Numeral :=
    match scale n exponent with
    | some units => .ok (double units)
    | none => .error 0
  if l.fraction = [] ∧ l.exponent = none then
    if dropped ≠ [] then scaled leading dropped.length
    else if l.negative = false then .ok (.integer leading)
    else if leading = 0 ∨ Nat.pow 2 63 < leading then .ok (double (Binary64.ofNat leading))
    else .ok (.integer (-(leading : Int)))
  else
    let (n, unused) := gather (Nat.pow 2 64) leading l.fraction
    let point : Int := dropped.length - ((l.fraction.length : Int) - unused.length)
    match l.exponent with
    | none => scaled n point
    | some (negative, digits) =>
      match gather (Nat.pow 2 31) 0 digits with
      | (exponent, []) => scaled n (point + applySign negative exponent)
      | (_, _ :: later) =>
        if n = 0 ∨ negative then .ok (double 0) else .error later.length

/-- A number. -/
def readNumeral (cs : List Char) : Except Fault (Numeral × Shorter cs.length) :=
  match readLiteral cs with
  | .error fault => .error fault
  | .ok (literal, rest) =>
    match literal.value with
    | .ok n => .ok (n, rest)
    | .error later => .error ⟨.numberTooLarge, .fixed (byteCount rest.1 + later), []⟩

/-! ## Escapes -/

/-- The value of a hexadecimal digit. -/
def hexValue? (c : Char) : Option Nat :=
  if isAsciiDigit c then some (digitValue c)
  else if 'a' ≤ c ∧ c ≤ 'f' then some (c.toNat - 'a'.toNat + 10)
  else if 'A' ≤ c ∧ c ≤ 'F' then some (c.toNat - 'A'.toNat + 10)
  else none

/-- The number of four hexadecimal digits, if all four are such digits. -/
def fourHex? (a b c d : Char) : Option Nat := do
  let a ← hexValue? a
  let b ← hexValue? b
  let c ← hexValue? c
  let d ← hexValue? d
  return ((a * 16 + b) * 16 + c) * 16 + d

/-- The fault of four bytes that are not four hexadecimal digits. -/
def hexFault (cs : List Char) : Fault :=
  if byteCount cs < 4 then .here .endInString [] else ⟨.badEscape, .fixed (byteCount cs - 4), []⟩

/-- Takes four hexadecimal digits off the front of a text. -/
def readHex (cs : List Char) : Except Fault (Nat × Shorter cs.length) :=
  match cs with
  | a :: b :: c :: d :: rest =>
    match fourHex? a b c d with
    | some n => .ok (n, ⟨rest, by simp; omega⟩)
    | none => .error (hexFault (a :: b :: c :: d :: rest))
  | cs => .error (hexFault cs)

/-- The second half of a character beyond the basic plane, after its first half. -/
def readLowSurrogate (high : Nat) (cs : List Char) : Except Fault (Char × Shorter cs.length) :=
  match cs with
  | [] => .error (.here .endInString [])
  | ['\\'] => .error (.here .endInString [])
  | '\\' :: 'u' :: rest =>
    match readHex rest with
    | .error fault => .error fault
    | .ok (low, ⟨left, h⟩) =>
      if low < 0xDC00 ∨ 0xDFFF < low then .error (.here .loneSurrogate left)
      else
        .ok (Char.ofNat (0x10000 + (high - 0xD800) * 0x400 + (low - 0xDC00)),
          ⟨left, by simp; omega⟩)
  | '\\' :: c :: rest => .error (.next .cutSurrogatePair (c :: rest))
  | c :: rest => .error (.next .cutSurrogatePair (c :: rest))

/-- The character of an escape by code point, after its letter. -/
def readCodePoint (cs : List Char) : Except Fault (Char × Shorter cs.length) :=
  match readHex cs with
  | .error fault => .error fault
  | .ok (n, ⟨rest, h⟩) =>
    if 0xDC00 ≤ n ∧ n ≤ 0xDFFF then .error (.here .loneSurrogate rest)
    else if 0xD800 ≤ n ∧ n ≤ 0xDBFF then
      match readLowSurrogate n rest with
      | .ok (c, ⟨left, h'⟩) => .ok (c, ⟨left, by omega⟩)
      | .error fault => .error fault
    else .ok (Char.ofNat n, ⟨rest, h⟩)

/-- The character that a letter after a backslash stands for. -/
def shortEscape? (c : Char) : Option Char :=
  match c with
  | '\"' => some '\"'
  | '\\' => some '\\'
  | '/' => some '/'
  | 'b' => some '\x08'
  | 'f' => some '\x0c'
  | 'n' => some '\n'
  | 'r' => some '\r'
  | 't' => some '\t'
  | _ => none

/-- The character of an escape, after its backslash. -/
def readEscape (cs : List Char) : Except Fault (Char × Shorter cs.length) :=
  match cs with
  | [] => .error (.here .endInString [])
  | c :: rest =>
    if c = 'u' then
      match readCodePoint rest with
      | .ok (value, left) => .ok (value, left.weaken (by simp))
      | .error fault => .error fault
    else
      match shortEscape? c with
      | some value => .ok (value, ⟨rest, by simp⟩)
      | none => .error (.next .badEscape (c :: rest))

/-! ## Strings -/

/-- The characters of a string up to its closing quote, in front of which `done` stand reversed. -/
def readCharacters (n : Nat) (done : List Char) (cs : List Char) (h : cs.length ≤ n) :
    Except Fault (String × Shorter n) :=
  match cs with
  | [] => .error (.here .endInString [])
  | c :: rest =>
    if c = '\"' then .ok (String.ofList done.reverse, ⟨rest, by simp at h; omega⟩)
    else if c = '\\' then
      match readEscape rest with
      | .error fault => .error fault
      | .ok (value, ⟨left, hl⟩) =>
        readCharacters n (value :: done) left (by simp at h; omega)
    else if c.toNat < 0x20 then .error (.here .controlCharacter rest)
    else readCharacters n (c :: done) rest (by simp at h; omega)
termination_by cs.length
decreasing_by all_goals simp_all <;> omega

/-- A string, after its opening quote. -/
def readString (cs : List Char) : Except Fault (String × Shorter cs.length) :=
  readCharacters cs.length [] cs (Nat.le_refl _)

/-! ## Scalars -/

/-- A value without parts. -/
inductive Scalar where
  | null
  | bool (b : Bool)
  | number (n : Numeral)
  | string (s : String)

/-- What a scalar is called where something else is expected. -/
def Scalar.found : Scalar → Found
  | .null => .null
  | .bool b => .boolean b
  | .number n => .numeral n
  | .string s => .text s

/-- The rest of a word that stands for a scalar. -/
def readWord (word : List Char) (value : Scalar) (cs : List Char) :
    Except Fault (Scalar × { rest : List Char // rest.length ≤ cs.length }) :=
  match readLetters word cs with
  | .ok rest => .ok (value, rest)
  | .error fault => .error fault

/-- A value without parts; a bracket is no such value. -/
def readScalar (cs : List Char) : Except Fault (Scalar × Shorter cs.length) :=
  match cs with
  | [] => .error (.here .endInValue [])
  | c :: tail =>
    let word (letters : List Char) (value : Scalar) :
        Except Fault (Scalar × Shorter (c :: tail).length) :=
      match readWord letters value tail with
      | .ok (scalar, ⟨rest, h⟩) => .ok (scalar, ⟨rest, Nat.lt_succ_of_le h⟩)
      | .error fault => .error fault
    if c = 'n' then word ['u', 'l', 'l'] .null
    else if c = 't' then word ['r', 'u', 'e'] (.bool true)
    else if c = 'f' then word ['a', 'l', 's', 'e'] (.bool false)
    else if c = '-' ∨ isAsciiDigit c then
      match readNumeral (c :: tail) with
      | .ok (n, rest) => .ok (.number n, rest)
      | .error fault => .error fault
    else if c = '\"' then
      match readString tail with
      | .ok (s, rest) => .ok (.string s, rest.weaken (by simp))
      | .error fault => .error fault
    else .error (.next .valueExpected (c :: tail))

end QuantumBlocks.Json
