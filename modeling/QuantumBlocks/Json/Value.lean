import QuantumBlocks.Number.Shortest

/-!
# JSON values

The values that a JSON text can hold. An object keeps its members in ascending order of their
names with one member a name, so two objects with the same members are equal.
-/

namespace QuantumBlocks.Json

open Number

/-! ## Values -/

/-- A number of a JSON text: an integer of at most 64 bits, or a number in double precision. -/
inductive Numeral where
  | integer (n : Int)
  | double (x : Binary64)
  deriving DecidableEq, Repr

/-- A JSON value. -/
inductive Value where
  | null
  | bool (b : Bool)
  | number (n : Numeral)
  | string (s : String)
  | list (items : List Value)
  | object (members : List (String × Value))
  deriving Repr, Inhabited

/-! ## Members -/

/-- Puts a member in its place, replacing one of the same name. -/
def insertMember {α : Type} (name : String) (value : α) : List (String × α) → List (String × α)
  | [] => [(name, value)]
  | (other, old) :: rest =>
    if name < other then (name, value) :: (other, old) :: rest
    else if name = other then (name, value) :: rest
    else (other, old) :: insertMember name value rest

/-- The members of an object from a list, where the last of equal names counts. -/
def membersOf {α : Type} (pairs : List (String × α)) : List (String × α) :=
  pairs.foldl (fun members pair => insertMember pair.1 pair.2 members) []

/-- The names stand in strictly ascending order. -/
def Ascending {α : Type} (members : List (String × α)) : Prop :=
  members.Pairwise fun a b => a.1 < b.1

/-- The value of a member. -/
def member? {α : Type} (name : String) (members : List (String × α)) : Option α :=
  (members.find? fun pair => pair.1 = name).map Prod.snd

end QuantumBlocks.Json
