import QuantumBlocks.Json.Token

/-!
# Values that nobody asked for

A member that the reader does not know is passed over. Its value has to be well formed, but not
more: its numbers may be of any size, its strings need no characters behind their escapes, and its
brackets may be nested to any depth, the brackets still open being kept in a list.
-/

namespace QuantumBlocks.Json

open Text

/-! ## Strings -/

/-- Passes over an escape, after its backslash. -/
def skipEscape (cs : List Char) : Except Fault (Shorter cs.length) :=
  match cs with
  | [] => .error (.here .endInString [])
  | c :: rest =>
    if c = 'u' then
      match readHex rest with
      | .ok (_, left) => .ok (left.weaken (length_le_cons c rest))
      | .error fault => .error fault
    else
      match shortEscape? c with
      | some _ => .ok ⟨rest, length_lt_cons c rest⟩
      | none => .error (.next .badEscape (c :: rest))

/-- Passes over a string, after its opening quote. -/
def skipCharacters (n : Nat) (cs : List Char) (h : cs.length ≤ n) : Except Fault (Shorter n) :=
  match cs with
  | [] => .error (.here .endInString [])
  | c :: rest =>
    if c = '\"' then .ok ⟨rest, by simp at h; omega⟩
    else if c = '\\' then
      match skipEscape rest with
      | .error fault => .error fault
      | .ok ⟨left, hl⟩ => skipCharacters n left (by simp at h; omega)
    else if c.toNat < 0x20 then .error (.here .controlCharacter (c :: rest))
    else skipCharacters n rest (by simp at h; omega)
termination_by cs.length
decreasing_by all_goals simp_all <;> omega

/-- Passes over a string, after its opening quote. -/
def skipString (cs : List Char) : Except Fault (Shorter cs.length) :=
  skipCharacters cs.length cs (length_le_self cs)

/-! ## Numbers -/

/-- Passes over a number. The end of the text is no fault of its own here. -/
def skipNumber (cs : List Char) : Except Fault (Shorter cs.length) :=
  match readLiteral cs with
  | .ok (_, rest) => .ok rest
  | .error fault =>
    match fault.cause with
    | .endInValue => .error (.here .badNumber [])
    | _ => .error fault

/-! ## Values -/

/-- The kind of a bracket that is open. -/
inductive Bracket where
  | list
  | object
  deriving DecidableEq

/-- The character that closes a bracket. -/
def Bracket.close : Bracket → Char
  | .list => ']'
  | .object => '\x7d'

/-- The fault of a text that ends inside a bracket. -/
def Bracket.endFault : Bracket → Fault
  | .list => .here .endInList []
  | .object => .here .endInObject []

/-- The fault of a text that goes on after a value with neither a comma nor the closing bracket. -/
def Bracket.separatorFault (cs : List Char) : Bracket → Fault
  | .list => .next .listEndExpected cs
  | .object => .next .objectEndExpected cs

/-- Passes over the name of a member and its colon. -/
def skipName (cs : List Char) : Except Fault (Shorter cs.length) :=
  match h : skipSpace cs with
  | [] => .error (.here .endInObject [])
  | c :: rest =>
    have hlen := length_lt_of_skipSpace h
    if c = '\"' then
      match skipString rest with
      | .error fault => .error fault
      | .ok ⟨left, hl⟩ =>
        match h' : skipSpace left with
        | [] => .error (.here .endInObject [])
        | d :: tail =>
          have hlen' := length_lt_of_skipSpace h'
          have htail := length_lt_trans hlen' hl
          if d = ':' then .ok ⟨tail, length_lt_trans htail hlen⟩
          else .error (.next .colonExpected (d :: tail))
    else .error (.next .keyExpected (c :: rest))

/-- Passes over a value without parts. -/
def skipScalar (cs : List Char) : Except Fault (Shorter cs.length) :=
  match cs with
  | [] => .error (.here .endInValue [])
  | c :: rest =>
    if c = '\"' then
      match skipString rest with
      | .ok left => .ok (left.weaken (length_le_cons c rest))
      | .error fault => .error fault
    else if c = '-' ∨ isAsciiDigit c then skipNumber (c :: rest)
    else
      match readScalar (c :: rest) with
      | .ok (_, left) => .ok left
      | .error fault => .error fault

mutual

/-- Passes over a value and then closes the open brackets. -/
def skipValueIn (n : Nat) (opened : List Bracket) (cs : List Char) (h : cs.length ≤ n) :
    Except Fault (Shorter n) :=
  match hs : skipSpace cs with
  | [] => .error (.here .endInValue [])
  | c :: rest =>
    have hlen := length_lt_of_skipSpace hs
    if c = '[' then skipOpened n .list opened rest (by omega)
    else if c = '\x7b' then skipOpened n .object opened rest (by omega)
    else
      match skipScalar (c :: rest) with
      | .error fault => .error fault
      | .ok ⟨left, hl⟩ =>
        have hleft : left.length < cs.length := by rw [List.length_cons] at hl; omega
        skipAfter n opened left (by omega)
termination_by (cs.length, 0)

/-- Passes over the first part inside a bracket that was just opened, or over its end. -/
def skipOpened (n : Nat) (bracket : Bracket) (opened : List Bracket) (cs : List Char)
    (h : cs.length < n) : Except Fault (Shorter n) :=
  match hs : skipSpace cs with
  | [] => .error bracket.endFault
  | c :: rest =>
    have hlen := length_lt_of_skipSpace hs
    if c = bracket.close then skipAfter n opened rest (by omega)
    else skipPart n bracket opened cs (by omega)
termination_by (cs.length, 2)

/-- Passes over one part inside a bracket: an item, or a member with its name. -/
def skipPart (n : Nat) (bracket : Bracket) (opened : List Bracket) (cs : List Char)
    (h : cs.length ≤ n) : Except Fault (Shorter n) :=
  match bracket with
  | .list => skipValueIn n (.list :: opened) cs h
  | .object =>
    match skipName cs with
    | .error fault => .error fault
    | .ok ⟨rest, hr⟩ => skipValueIn n (.object :: opened) rest (by omega)
termination_by (cs.length, 1)

/-- Goes on after a value: with the next part of the innermost open bracket, or with its end. -/
def skipAfter (n : Nat) (opened : List Bracket) (cs : List Char) (h : cs.length < n) :
    Except Fault (Shorter n) :=
  match opened with
  | [] => .ok ⟨cs, h⟩
  | bracket :: outer =>
    match hs : skipSpace cs with
    | [] => .error bracket.endFault
    | c :: rest =>
      have hlen := length_lt_of_skipSpace hs
      if c = ',' then skipPart n bracket outer rest (by omega)
      else if c = bracket.close then skipAfter n outer rest (by omega)
      else .error (bracket.separatorFault (c :: rest))
termination_by (cs.length, 0)

end

/-- Passes over a value. -/
def skipValue (cs : List Char) : Except Fault (Shorter cs.length) :=
  skipValueIn cs.length [] cs (length_le_self cs)

end QuantumBlocks.Json
