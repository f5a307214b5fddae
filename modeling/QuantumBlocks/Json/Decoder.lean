import QuantumBlocks.Json.Skip

/-!
# Reading values of a known form

A decoder describes the form of a value once and reads it from two sources: from a text, where a
fault has a place and the first fault in reading order is the one that counts, and from a JSON
value at hand. Decoders of compound values are put together from those of their parts.

## Depth

Brackets may be nested 127 deep. A decoder is told how many more may be opened; only values that
nobody asked for are exempt.
-/

namespace QuantumBlocks.Json

open Number

/-- The form of the values of a type, read from a text or from a JSON value. -/
structure Decoder (α : Type) where
  fromText : Nat → Reader α
  fromValue : Value → Except Cause α

/-- How deep brackets may be nested. -/
def maxDepth : Nat := 127

/-! ## Values of the wrong form -/

/-- The fault of a value that does not begin with the right bracket; the text starts with it. -/
def wrongForm (expected : String) (cs : List Char) : Fault :=
  match cs with
  | [] => .here .endInValue []
  | c :: rest =>
    if c = '[' then .here (.wrongType .sequence expected) (c :: rest)
    else if c = '\x7b' then .here (.wrongType .map expected) (c :: rest)
    else
      match readScalar (c :: rest) with
      | .error fault => fault
      | .ok (scalar, ⟨left, _⟩) => .here (.wrongType scalar.found expected) left

/-- What a JSON value is called where something else is expected. -/
def Value.found : Value → Found
  | .null => .null
  | .bool b => .boolean b
  | .number n => .numeral n
  | .string s => .text s
  | .list _ => .sequence
  | .object _ => .map

/-- A JSON value without parts. -/
def Value.scalar? : Value → Option Scalar
  | .null => some .null
  | .bool b => some (.bool b)
  | .number n => some (.number n)
  | .string s => some (.string s)
  | .list _ | .object _ => none

/-- A scalar as a JSON value. -/
def Scalar.toValue : Scalar → Value
  | .null => .null
  | .bool b => .bool b
  | .number n => .number n
  | .string s => .string s

/-! ## Inside brackets -/

/-- The text after the end of a list, once its items are read or given up. -/
def afterListEnd (cs : List Char) : List Char :=
  match skipSpace cs with
  | ']' :: rest => rest
  | ',' :: rest => skipSpace rest
  | rest => rest

/-- The text after the end of an object, once its members are read or given up. -/
def afterObjectEnd (cs : List Char) : List Char :=
  match skipSpace cs with
  | '\x7d' :: rest => rest
  | rest => rest

/-- What comes next inside a list. -/
inductive NextItem (n : Nat) where
  | closed (rest : Shorter n)
  | item (rest : Shorter n)

/-- Goes to the next item of a list, over the comma that follows all but the first one. -/
def nextItem (n : Nat) (first : Bool) (cs : List Char) (h : cs.length < n) :
    Except Fault (NextItem n) :=
  match hs : skipSpace cs with
  | [] => .error (.here .endInList [])
  | c :: rest =>
    have hlen := length_lt_of_skipSpace hs
    if c = ']' then .ok (.closed ⟨rest, length_lt_of_lt hlen h⟩)
    else if first then .ok (.item ⟨cs, h⟩)
    else if c = ',' then
      match skipSpace rest with
      | [] => .error (.here .endInValue [])
      | d :: tail =>
        if d = ']' then .error (.next .trailingComma (d :: tail))
        else .ok (.item ⟨rest, length_lt_of_lt hlen h⟩)
    else .error (.next .listEndExpected (c :: rest))

/-- What comes next inside an object. -/
inductive NextMember (n : Nat) where
  | closed (rest : Shorter n)
  | member (name : String) (rest : Shorter n)

/-- The name of a member, the text starting with its quote. -/
def readName (n : Nat) (cs : List Char) (h : cs.length ≤ n) : Except Fault (NextMember n) :=
  match cs with
  | [] => .error (.here .endInValue [])
  | c :: rest =>
    if c = '\"' then
      match readString rest with
      | .ok (name, ⟨left, hl⟩) => .ok (.member name ⟨left, by simp at h; omega⟩)
      | .error fault => .error fault
    else .error (.next .keyExpected (c :: rest))

/-- Goes to the next member of an object, over the comma that follows all but the first one, and
reads its name. -/
def nextMember (n : Nat) (first : Bool) (cs : List Char) (h : cs.length < n) :
    Except Fault (NextMember n) :=
  match hs : skipSpace cs with
  | [] => .error (.here .endInObject [])
  | c :: rest =>
    have hlen := length_lt_of_skipSpace hs
    if c = '\x7d' then .ok (.closed ⟨rest, length_lt_of_lt hlen h⟩)
    else if first then readName n (c :: rest) (by simp; omega)
    else if c = ',' then
      match hr : skipSpace rest with
      | [] => .error (.here .endInValue [])
      | d :: tail =>
        have hlen' := length_lt_of_skipSpace hr
        if d = '\x7d' then .error (.next .trailingComma (d :: tail))
        else readName n (d :: tail) (by simp; omega)
    else .error (.next .objectEndExpected (c :: rest))

/-- The colon between a name and its value. -/
def readColon (cs : List Char) : Except Fault (Shorter cs.length) :=
  match hs : skipSpace cs with
  | [] => .error (.here .endInObject [])
  | c :: rest =>
    have hlen := length_lt_of_skipSpace hs
    if c = ':' then .ok ⟨rest, hlen⟩ else .error (.next .colonExpected (c :: rest))

/-- The items of a list after its bracket; `done` holds the items read so far, reversed. -/
def readItems {α : Type} (read : Reader α) (n : Nat) (done : List α) (cs : List Char)
    (h : cs.length < n) : Except Fault (List α × Shorter n) :=
  match nextItem cs.length.succ done.isEmpty cs (Nat.lt_succ_self _) with
  | .error fault => .error fault
  | .ok (.closed ⟨rest, hr⟩) => .ok (done.reverse, ⟨rest, length_lt_of_lt_succ hr h⟩)
  | .ok (.item ⟨rest, hr⟩) =>
    have hrest := length_lt_of_lt_succ hr h
    match read rest with
    | .error fault => .error ((fault.settle afterListEnd).within (.item done.length))
    | .ok (item, ⟨left, hl⟩) => readItems read n (item :: done) left (length_lt_of_lt hl hrest)
termination_by cs.length
decreasing_by omega

/-- The members of an object after its bracket, in the order of the text and with repeated names;
`done` holds the members read so far, reversed. -/
def readMembers {α : Type} (read : Reader α) (n : Nat) (done : List (String × α))
    (cs : List Char) (h : cs.length < n) : Except Fault (List (String × α) × Shorter n) :=
  match nextMember cs.length.succ done.isEmpty cs (Nat.lt_succ_self _) with
  | .error fault => .error (fault.within .unknown)
  | .ok (.closed ⟨rest, hr⟩) => .ok (done.reverse, ⟨rest, length_lt_of_lt_succ hr h⟩)
  | .ok (.member name ⟨rest, hr⟩) =>
    have hrest := length_lt_of_lt_succ hr h
    let failed (fault : Fault) : Fault := (fault.settle afterObjectEnd).within (.member name)
    match readColon rest with
    | .error fault => .error fault
    | .ok ⟨value, hv⟩ =>
      have hvalue := length_lt_of_lt hv hrest
      match read value with
      | .error fault => .error (failed fault)
      | .ok (item, ⟨left, hl⟩) =>
        readMembers read n ((name, item) :: done) left (length_lt_of_lt hl hvalue)
termination_by cs.length
decreasing_by omega

/-! ## Any value -/

/-- A value at a place where brackets may be opened if `inner` is given, which reads their parts. -/
def readValueWith (inner : Option (Reader Value)) : Reader Value := fun cs =>
  match hs : skipSpace cs with
  | [] => .error (.here .endInValue [])
  | c :: rest =>
    have hlen := length_lt_of_skipSpace hs
    if c = '[' ∨ c = '\x7b' then
      match inner with
      | none => .error (.next .tooDeep (c :: rest))
      | some read =>
        if c = '[' then
          match readItems read cs.length [] rest hlen with
          | .ok (items, left) => .ok (.list items, left)
          | .error fault => .error fault
        else
          match readMembers read cs.length [] rest hlen with
          | .ok (members, left) => .ok (.object (membersOf members), left)
          | .error fault => .error fault
    else
      match readScalar (c :: rest) with
      | .ok (scalar, left) => .ok (scalar.toValue, left.weaken (length_cons_le c hlen))
      | .error fault => .error fault

/-- A value whose brackets are nested at most `depth` deep. -/
def readValue : Nat → Reader Value
  | 0 => readValueWith none
  | depth + 1 => readValueWith (some (readValue depth))

namespace Decoder

/-- Any value. -/
def value : Decoder Value := ⟨readValue, .ok⟩

/-! ## Scalars -/

/-- The values of another decoder, changed by a function. -/
def map {α β : Type} (f : α → β) (d : Decoder α) : Decoder β where
  fromText depth cs :=
    match d.fromText depth cs with
    | .ok (a, rest) => .ok (f a, rest)
    | .error fault => .error fault
  fromValue v := (d.fromValue v).map f

/-- A value without parts that `accept` takes. -/
def scalar {α : Type} (expected : String) (accept : Scalar → Except Cause α) : Decoder α where
  fromText _ cs :=
    match hs : skipSpace cs with
    | [] => .error (.here .endInValue [])
    | c :: rest =>
      have hlen := length_lt_of_skipSpace hs
      if c = '[' ∨ c = '\x7b' then .error (wrongForm expected (c :: rest))
      else
        match readScalar (c :: rest) with
        | .error fault => .error fault
        | .ok (scalar, left) =>
          match accept scalar with
          | .ok a => .ok (a, left.weaken (length_cons_le c hlen))
          | .error cause => .error (.here cause left.1)
  fromValue v :=
    match v.scalar? with
    | some scalar => accept scalar
    | none => .error (.wrongType v.found expected)

/-- A string. -/
def string : Decoder String :=
  scalar "a string" fun
    | .string s => .ok s
    | other => .error (.wrongType other.found "a string")

/-- A truth value. -/
def bool : Decoder Bool :=
  scalar "a boolean" fun
    | .bool b => .ok b
    | other => .error (.wrongType other.found "a boolean")

/-- The value null. -/
def unit : Decoder Unit :=
  scalar "unit" fun
    | .null => .ok ()
    | other => .error (.wrongType other.found "unit")

/-- An integer for which `fits` holds; `kind` is what messages call such integers. -/
def integer (kind : String) (fits : Int → Bool) : Decoder Int :=
  scalar kind fun
    | .number (.integer n) =>
      if fits n then .ok n else .error (.wrongValue (.numeral (.integer n)) kind)
    | other => .error (.wrongType other.found kind)

/-- A natural number of 32 bits. -/
def unsigned32 : Decoder Nat :=
  (integer "u32" fun n => 0 ≤ n && n ≤ maxUnsigned32).map Int.toNat

/-- A natural number of 64 bits. -/
def unsigned64 : Decoder Nat :=
  (integer "u64" fun n => 0 ≤ n && n ≤ maxUnsigned64).map Int.toNat

/-- An integer of 64 bits. -/
def signed64 : Decoder Int := integer "i64" fitsSigned64

/-- A string that `parse` takes, for whatever it refuses being the cause. -/
def parsed {α : Type} (expected : String) (parse : String → Except String α) : Decoder α :=
  scalar expected fun
    | .string s => (parse s).mapError .badDate
    | other => .error (.wrongType other.found expected)

/-- Null or a value. -/
def optional {α : Type} (d : Decoder α) : Decoder (Option α) where
  fromText depth cs :=
    match hs : skipSpace cs with
    | [] => .error (.here .endInValue [])
    | c :: rest =>
      have hlen := length_lt_of_skipSpace hs
      if c = 'n' then
        match readLetters ['u', 'l', 'l'] rest with
        | .ok ⟨left, hl⟩ => .ok (none, ⟨left, by omega⟩)
        | .error fault => .error fault
      else
        match d.fromText depth cs with
        | .ok (a, left) => .ok (some a, left)
        | .error fault => .error fault
  fromValue
    | .null => .ok none
    | v => (d.fromValue v).map some

/-! ## Lists and maps -/

/-- Reads what follows the opening bracket at the front of a text, one level deeper. -/
def bracketed {α : Type} {n : Nat} (opening : Char) (expected : String) (depth : Nat)
    (cs : List Char) (read : Nat → Except Fault (α × Shorter n)) :
    Except Fault (α × Shorter n) :=
  if cs.head? = some opening then
    match depth with
    | 0 => .error (.next .tooDeep cs)
    | inner + 1 => read inner
  else .error (wrongForm expected cs)

/-- A list of values of one form. -/
def list {α : Type} (d : Decoder α) : Decoder (List α) where
  fromText depth cs :=
    match hs : skipSpace cs with
    | [] => .error (.here .endInValue [])
    | c :: rest =>
      have hlen := length_lt_of_skipSpace hs
      bracketed '[' "a sequence" depth (c :: rest) fun inner =>
        readItems (d.fromText inner) cs.length [] rest hlen
  fromValue
    | .list items => items.mapM d.fromValue
    | v => .error (.wrongType v.found "a sequence")

/-- The members of an object with values of one form, in the order of the text. -/
def members {α : Type} (d : Decoder α) (expected : String) : Decoder (List (String × α)) where
  fromText depth cs :=
    match hs : skipSpace cs with
    | [] => .error (.here .endInValue [])
    | c :: rest =>
      have hlen := length_lt_of_skipSpace hs
      bracketed '\x7b' expected depth (c :: rest) fun inner =>
        readMembers (d.fromText inner) cs.length [] rest hlen
  fromValue
    | .object pairs => pairs.mapM fun pair => (d.fromValue pair.2).map fun a => (pair.1, a)
    | v => .error (.wrongType v.found expected)

end Decoder

end QuantumBlocks.Json
