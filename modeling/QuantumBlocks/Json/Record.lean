import QuantumBlocks.Json.Decoder

/-!
# Records and choices

A record is an object with known fields, or a list of their values in the order in which the
fields are declared. Fields that are not known are passed over, and a field that is given twice or
left out is a fault. A choice is one of several named cases: a string that names a case without a
value, or an object whose one member names a case and gives its value.
-/

namespace QuantumBlocks.Json

/-! ## Fields -/

/-- A field of a record that is gathered in `σ`: its name, whether a list may end before it,
whether it was given already, and how it is read and kept. -/
structure Field (σ : Type) where
  name : String
  canEnd : Bool := false
  isGiven : σ → Bool
  decoder : Decoder (σ → σ)

/-- A field kept in an optional slot of `σ`. -/
def Field.slot {σ α : Type} (name : String) (d : Decoder α) (get : σ → Option α)
    (set : α → σ → σ) (canEnd : Bool := false) : Field σ where
  name := name
  canEnd := canEnd
  isGiven state := (get state).isSome
  decoder := d.map set

/-- A record gathered in `σ`: its name, its fields, and the record that comes of them, or the name
of a field that is missing. -/
structure Form (σ α : Type) where
  name : String
  fields : List (Field σ)
  empty : σ
  complete : σ → Except String α

namespace Form

variable {σ α : Type} (form : Form σ α)

/-- What messages call the record. -/
def expected : String := "struct " ++ form.name

/-- What messages call a list of the right length. -/
def expectedLength : String :=
  let count := form.fields.length
  form.expected ++ " with " ++ toString count ++ if count = 1 then " element" else " elements"

/-- The field of a name. -/
def field? (name : String) : Option (Field σ) := form.fields.find? fun f => f.name = name

/-- The record, or the cause that a field is missing. -/
def finish (state : σ) : Except Cause α := (form.complete state).mapError .missingField

end Form

/-! ## Records in a text -/

/-- The fields of a record after the opening bracket of an object. -/
def readFields {σ α : Type} (form : Form σ α) (depth n : Nat) (first : Bool) (state : σ)
    (cs : List Char) (h : cs.length < n) : Except Fault (α × Shorter n) :=
  match nextMember cs.length.succ first cs (Nat.lt_succ_self _) with
  | .error fault => .error (fault.within .unknown)
  | .ok (.closed ⟨rest, hr⟩) =>
    match form.finish state with
    | .ok record => .ok (record, ⟨rest, by omega⟩)
    | .error cause => .error (.here cause rest)
  | .ok (.member name ⟨rest, hr⟩) =>
    let failed (fault : Fault) : Fault := (fault.settle afterObjectEnd).within (.member name)
    match form.field? name with
    | none =>
      match readColon rest with
      | .error fault => .error fault
      | .ok ⟨value, hv⟩ =>
        match skipValue value with
        | .error fault => .error (failed fault)
        | .ok ⟨left, hl⟩ => readFields form depth n false state left (by omega)
    | some field =>
      if field.isGiven state then
        .error (.here (.duplicateField name) (afterObjectEnd rest))
      else
        match readColon rest with
        | .error fault => .error fault
        | .ok ⟨value, hv⟩ =>
          match field.decoder.fromText depth value with
          | .error fault => .error (failed fault)
          | .ok (keep, ⟨left, hl⟩) => readFields form depth n false (keep state) left (by omega)
termination_by cs.length
decreasing_by all_goals omega

/-- The end of a list that holds all the fields of a record. -/
def readFieldsEnd (cs : List Char) : Except Fault (Shorter cs.length) :=
  match hs : skipSpace cs with
  | [] => .error (.here .endInList [])
  | c :: rest =>
    if c = ']' then .ok ⟨rest, length_lt_of_skipSpace hs⟩
    else if c = ',' then
      match skipSpace rest with
      | ']' :: tail => .error (.next .trailingComma (']' :: tail))
      | tail => .error (.next .trailingCharacters tail)
    else .error (.next .trailingCharacters (c :: rest))

/-- The fields of a record after the opening bracket of a list; `index` counts those before. -/
def readFieldItems {σ α : Type} (form : Form σ α) (depth n : Nat) (fields : List (Field σ))
    (index : Nat) (state : σ) (cs : List Char) (h : cs.length < n) :
    Except Fault (α × Shorter n) :=
  match fields with
  | [] =>
    match form.finish state with
    | .error cause => .error (.here cause (afterListEnd cs))
    | .ok record =>
      match readFieldsEnd cs with
      | .ok rest => .ok (record, rest.weaken (by omega))
      | .error fault => .error fault
  | field :: later =>
    match nextItem cs.length.succ (index == 0) cs (Nat.lt_succ_self _) with
    | .error fault => .error fault
    | .ok (.closed ⟨rest, _⟩) =>
      if field.canEnd then readFieldItems form depth n later (index + 1) state cs h
      else .error (.here (.wrongLength index form.expectedLength) rest)
    | .ok (.item ⟨rest, hr⟩) =>
      match field.decoder.fromText depth rest with
      | .error fault => .error ((fault.settle afterListEnd).within (.item index))
      | .ok (keep, ⟨left, hl⟩) =>
        readFieldItems form depth n later (index + 1) (keep state) left (by omega)

/-! ## Records in a value -/

/-- The fields of a record from the members of an object. -/
def gatherFields {σ α : Type} (form : Form σ α) (state : σ) :
    List (String × Value) → Except Cause α
  | [] => form.finish state
  | (name, v) :: rest =>
    match form.field? name with
    | none => gatherFields form state rest
    | some field =>
      match field.decoder.fromValue v with
      | .error cause => .error cause
      | .ok keep => gatherFields form (keep state) rest

/-- The fields of a record from the items of a list, of which there are `length` in all. -/
def gatherItems {σ α : Type} (form : Form σ α) (length : Nat) (fields : List (Field σ))
    (index : Nat) (state : σ) (items : List Value) : Except Cause α :=
  match fields, items with
  | [], [] => form.finish state
  | [], _ :: _ =>
    match form.finish state with
    | .error cause => .error cause
    | .ok _ => .error (.wrongLength length "fewer elements in array")
  | field :: later, [] =>
    if field.canEnd then gatherItems form length later (index + 1) state []
    else .error (.wrongLength index form.expectedLength)
  | field :: later, v :: rest =>
    match field.decoder.fromValue v with
    | .error cause => .error cause
    | .ok keep => gatherItems form length later (index + 1) (keep state) rest

namespace Decoder

/-- A record. -/
def record {σ α : Type} (form : Form σ α) : Decoder α where
  fromText depth cs :=
    match hs : skipSpace cs with
    | [] => .error (.here .endInValue [])
    | c :: rest =>
      have hlen := length_lt_of_skipSpace hs
      if c = '[' then
        bracketed '[' form.expected depth (c :: rest) fun inner =>
          readFieldItems form inner cs.length form.fields 0 form.empty rest hlen
      else
        bracketed '\x7b' form.expected depth (c :: rest) fun inner =>
          readFields form inner cs.length true form.empty rest hlen
  fromValue
    | .object members => gatherFields form form.empty members
    | .list items => gatherItems form items.length form.fields 0 form.empty items
    | v => .error (.wrongType v.found form.expected)

end Decoder

/-! ## Choices -/

/-- A case of a choice: a value of its own, or one that comes with the name. -/
inductive Case (α : Type) where
  | plain (a : α)
  | carrying (d : Decoder α)

/-- The case of a name. -/
def findCase {α : Type} (cases : List (String × Case α)) (name : String) :
    Except Cause (Case α) :=
  match cases.find? fun c => c.1 = name with
  | some c => .ok c.2
  | none => .error (.unknownVariant name (cases.map Prod.fst))

/-- The value of a case in an object, which is null for a case without a value. -/
def Case.decoder {α : Type} : Case α → Decoder α
  | .plain a => Decoder.unit.map fun _ => a
  | .carrying d => d

/-- A case that is named by a string alone. -/
def Case.alone {α : Type} : Case α → Except Cause α
  | .plain a => .ok a
  | .carrying _ => .error (.wrongType .unitVariant "newtype variant")

/-- The case that a name after its opening quote stands for. -/
def readQuotedCase {α : Type} (cases : List (String × Case α)) (cs : List Char) :
    Except Fault (Case α × Shorter cs.length) :=
  match readString cs with
  | .error fault => .error fault
  | .ok (name, left) =>
    match findCase cases name with
    | .ok found => .ok (found, left)
    | .error cause => .error (.here cause left.1)

/-- The name of a case after the opening bracket of an object, which may not be empty. -/
def readCaseName {α : Type} (cases : List (String × Case α)) (cs : List Char) :
    Except Fault (Case α × Shorter cs.length) :=
  match hs : skipSpace cs with
  | [] => .error (.here .endInObject [])
  | c :: rest =>
    have hlen := length_lt_of_skipSpace hs
    if c = '\"' then
      match readQuotedCase cases rest with
      | .ok (found, left) => .ok (found, left.weaken (by omega))
      | .error fault => .error fault
    else if c = '\x7d' then .error (.next .valueExpected (c :: rest))
    else .error (.next .keyExpected (c :: rest))

/-- A case after the opening bracket of an object. -/
def readCase {α : Type} (cases : List (String × Case α)) (depth : Nat) (cs : List Char) :
    Except Fault (α × Shorter cs.length) :=
  match readCaseName cases cs with
  | .error fault => .error fault
  | .ok (found, ⟨rest, hr⟩) =>
    match readColon rest with
    | .error fault => .error fault
    | .ok ⟨value, hv⟩ =>
      match found.decoder.fromText depth value with
      | .error fault => .error fault
      | .ok (a, ⟨left, hl⟩) =>
        match hs : skipSpace left with
        | [] => .error (.here .endInObject [])
        | c :: tail =>
          have hlen := length_lt_of_skipSpace hs
          if c = '\x7d' then .ok (a, ⟨tail, by omega⟩)
          else .error (.here .valueExpected (c :: tail))

namespace Decoder

/-- One of several named cases. -/
def choice {α : Type} (cases : List (String × Case α)) : Decoder α where
  fromText depth cs :=
    match hs : skipSpace cs with
    | [] => .error (.here .endInValue [])
    | c :: rest =>
      have hlen := length_lt_of_skipSpace hs
      if c = '\x7b' then
        bracketed '\x7b' "" depth (c :: rest) fun inner =>
          match readCase cases inner rest with
          | .ok (a, left) => .ok (a, left.weaken (by omega))
          | .error fault => .error fault
      else if c = '\"' then
        match readQuotedCase cases rest with
        | .error fault => .error fault
        | .ok (found, left) =>
          match found.alone with
          | .ok a => .ok (a, left.weaken (by omega))
          | .error cause => .error ⟨cause, .pending left.1, []⟩
      else .error (.next .valueExpected (c :: rest))
  fromValue
    | .string name => (findCase cases name).bind Case.alone
    | .object [(name, v)] => (findCase cases name).bind fun found => found.decoder.fromValue v
    | .object _ => .error (.wrongValue .map "map with a single key")
    | v => .error (.wrongType v.found "string or map")

end Decoder

/-! ## Whole texts -/

/-- Reads a whole text, after whose value only blanks may follow. -/
def Decoder.read {α : Type} (d : Decoder α) (text : String) : Except Fault α :=
  match d.fromText maxDepth text.toList with
  | .error fault => .error fault
  | .ok (a, ⟨rest, _⟩) =>
    match skipSpace rest with
    | [] => .ok a
    | left => .error (.next .trailingCharacters left)

/-- Reads a whole text, with the message of its fault. -/
def Decoder.parse {α : Type} (d : Decoder α) (text : String) : Except String α :=
  (d.read text).mapError (Fault.message text)

end QuantumBlocks.Json
