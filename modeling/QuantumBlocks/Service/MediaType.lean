import QuantumBlocks.Text.Digit

/-!
# Media types

The type of a message body, such as `application/json; charset=utf-8`: a type and a subtype, which
may end in a suffix after a plus sign, and parameters.
-/

namespace QuantumBlocks.Service

/-- A media type without its parameters, in small letters. The suffix of a subtype is what follows
its last plus sign. -/
structure MediaType where
  type : List Char
  subtype : List Char
  suffix : Option (List Char)
  deriving DecidableEq, Repr

namespace MediaType

/-! ## Tokens -/

/-- The signs that may stand in a token. -/
def tokenSigns : List Char :=
  ['!', '#', '$', '%', '&', '\'', '*', '+', '-', '.', '^', '_', '\x60', '|', '~']

/-- Whether a character may stand in a token. -/
def isTokenChar (c : Char) : Bool :=
  Text.isAsciiDigit c || ('a' ≤ c && c ≤ 'z') || ('A' ≤ c && c ≤ 'Z') || tokenSigns.contains c

/-- Whether a character may stand between quotes. -/
def isQuotedChar (c : Char) : Bool := 0x20 ≤ c.toNat && c.toNat < 0x7F

/-- The text after a quoted value, whose first character may be a quote itself. -/
def skipQuoted (first : Bool) : List Char → Option (List Char)
  | [] => none
  | c :: rest =>
    if c = '\"' ∧ !first then some rest
    else if isQuotedChar c then skipQuoted false rest
    else none

/-- The text after the semicolon that follows a quoted value and blanks, if there is one. -/
def skipAfterQuoted (cs : List Char) : Option (List Char) :=
  match cs.dropWhile (· = ' ') with
  | [] => some []
  | c :: rest => if c = ';' then some rest else none

/-- The text after the value of a parameter and the semicolon that follows it. -/
def skipValue (cs : List Char) : Option (List Char) :=
  match cs with
  | '\"' :: rest => (skipQuoted true rest).bind skipAfterQuoted
  | cs =>
    match cs.dropWhile isTokenChar with
    | [] => some []
    | c :: rest => if c = ';' ∧ cs.head? ≠ some ';' then some rest else none

theorem length_skipQuoted {first : Bool} {cs rest : List Char}
    (h : skipQuoted first cs = some rest) : rest.length ≤ cs.length := by
  induction cs generalizing first with
  | nil => simp [skipQuoted] at h
  | cons c tail ih =>
    rw [skipQuoted] at h
    split at h
    · simp_all
    · split at h
      · have := ih h
        simp only [List.length_cons]
        omega
      · simp at h

theorem length_skipAfterQuoted {cs rest : List Char} (h : skipAfterQuoted cs = some rest) :
    rest.length ≤ cs.length := by
  have hdrop := (List.dropWhile_suffix (· = ' ') (l := cs)).length_le
  unfold skipAfterQuoted at h
  split at h
  · simp_all
  · rename_i heq
    rw [heq] at hdrop
    split at h
    · simp_all only [Option.some.injEq, List.length_cons]
      omega
    · simp at h

theorem length_skipValue {cs rest : List Char} (h : skipValue cs = some rest) :
    rest.length ≤ cs.length := by
  unfold skipValue at h
  split at h
  · obtain ⟨later, hq, ha⟩ := Option.bind_eq_some_iff.1 h
    have h1 := length_skipQuoted hq
    have h2 := length_skipAfterQuoted ha
    simp only [List.length_cons]
    omega
  · have hdrop := (List.dropWhile_suffix isTokenChar (l := cs)).length_le
    split at h
    · simp_all
    · rename_i heq
      rw [heq] at hdrop
      split at h
      · simp_all only [Option.some.injEq, List.length_cons]
        omega
      · simp at h

/-- Whether a text is a list of parameters, with blanks in front of each. -/
def areParameters (cs : List Char) : Bool :=
  match _hblank : cs.dropWhile (· = ' ') with
  | [] => true
  | c :: rest =>
    match _hname : (c :: rest).dropWhile isTokenChar with
    | '=' :: value =>
      isTokenChar c && match hvalue : skipValue value with
        | some later =>
          have := (List.dropWhile_suffix (· = ' ') (l := cs)).length_le
          have := (List.dropWhile_suffix isTokenChar (l := c :: rest)).length_le
          have := length_skipValue hvalue
          areParameters later
        | none => false
    | _ => false
termination_by cs.length
decreasing_by simp_all only [List.length_cons]; omega

/-! ## Reading -/

/-- Splits a subtype at its last plus sign, which may not be its first character. -/
def splitSuffix (cs : List Char) : List Char × Option (List Char) :=
  let suffix := cs.reverse.takeWhile (· ≠ '+')
  let base := (cs.reverse.dropWhile (· ≠ '+')).tail.reverse
  if base = [] then (cs, none) else (base, some suffix.reverse)

/-- The media type of a type and a subtype. -/
def ofParts (type subtype : List Char) : MediaType :=
  let (base, suffix) := splitSuffix (subtype.map Char.toLower)
  ⟨type.map Char.toLower, base, suffix⟩

/-- The media type that a text writes. -/
def read? (s : String) : Option MediaType :=
  let type := s.toList.takeWhile isTokenChar
  match s.toList.dropWhile isTokenChar with
  | '/' :: rest =>
    let subtype := rest.takeWhile isTokenChar
    let found := if type = [] then none else some (ofParts type subtype)
    match rest.dropWhile isTokenChar with
    | [] => found
    | c :: parameters =>
      if c = ';' ∧ subtype ≠ [] ∧ areParameters parameters then found
      else none
  | _ => none

/-- Whether a media type stands for JSON. -/
def isJson (m : MediaType) : Bool :=
  m.type == "application".toList
    && (m.subtype == "json".toList || m.suffix == some "json".toList)

end MediaType

end QuantumBlocks.Service
