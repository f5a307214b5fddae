import QuantumBlocks.Json.Value
import QuantumBlocks.Text.Quoted

/-!
# Writing JSON

The compact text of a value: no blanks, members in their order, and in strings only quotes,
backslashes and controls escaped.
-/

namespace QuantumBlocks.Json

/-! ## Strings -/

/-- One character of a string. -/
def escapeChar (c : Char) : List Char :=
  if c = '\"' then ['\\', '\"']
  else if c = '\\' then ['\\', '\\']
  else if c = '\x08' then ['\\', 'b']
  else if c = '\x0c' then ['\\', 'f']
  else if c = '\n' then ['\\', 'n']
  else if c = '\r' then ['\\', 'r']
  else if c = '\t' then ['\\', 't']
  else if c.toNat < 0x20 then '\\' :: 'u' :: (Text.hexPadded 4 c.toNat).toList
  else [c]

/-- The characters of a string between its quotes. -/
def escape (cs : List Char) : List Char := cs.flatMap escapeChar

/-- A string with its quotes. -/
def renderString (s : String) : String :=
  String.ofList ('\"' :: escape s.toList ++ ['\"'])

/-- A member of an object whose value is written already. -/
def renderMember (name value : String) : String := renderString name ++ ":" ++ value

/-- An object whose members are written already. -/
def renderObject (members : List String) : String :=
  "\x7b" ++ String.intercalate "," members ++ "\x7d"

/-! ## Values -/

/-- A number. -/
def Numeral.render : Numeral → String
  | .integer n => toString n
  | .double x => x.text

mutual

/-- The compact text of a value. -/
def Value.render : Value → String
  | .null => "null"
  | .bool b => toString b
  | .number n => n.render
  | .string s => renderString s
  | .list items => "[" ++ String.intercalate "," (renderItems items) ++ "]"
  | .object members => renderObject (renderMembers members)

/-- The texts of the items of a list. -/
def renderItems : List Value → List String
  | [] => []
  | v :: rest => v.render :: renderItems rest

/-- The texts of the members of an object. -/
def renderMembers : List (String × Value) → List String
  | [] => []
  | (name, v) :: rest => renderMember name v.render :: renderMembers rest

end

end QuantumBlocks.Json
