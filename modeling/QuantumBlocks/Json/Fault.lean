import QuantumBlocks.Json.Value
import QuantumBlocks.Text.Quoted

/-!
# What can be wrong with a JSON text

A fault has a cause, a place in the text and a path of members and items that leads to the value
in question. The place is kept as the number of bytes that were left when reading stopped, and
turned into a line and a column at the end, when the whole text is at hand.
-/

namespace QuantumBlocks.Json

/-! ## Causes -/

/-- What stood where something else was expected. -/
inductive Found where
  | null
  | boolean (b : Bool)
  | numeral (n : Numeral)
  | text (s : String)
  | sequence
  | map
  | unitVariant

/-- Between backticks, as messages show names and numbers. -/
def ticked (s : String) : String := "`" ++ s ++ "`"

/-- What stood there, in the words of a message. -/
def Found.describe : Found → String
  | .null => "null"
  | .boolean b => "boolean " ++ ticked (toString b)
  | .numeral (.integer n) => "integer " ++ ticked (toString n)
  | .numeral (.double x) => "floating point " ++ ticked x.text
  | .text s => "string " ++ Text.quote s
  | .sequence => "sequence"
  | .map => "map"
  | .unitVariant => "unit variant"

/-- Why a text is no JSON, or a value is not of the expected form. -/
inductive Cause where
  | endInValue
  | endInList
  | endInObject
  | endInString
  | valueExpected
  | wordExpected
  | badNumber
  | numberTooLarge
  | badEscape
  | controlCharacter
  | loneSurrogate
  | cutSurrogatePair
  | listEndExpected
  | objectEndExpected
  | trailingComma
  | keyExpected
  | colonExpected
  | trailingCharacters
  | tooDeep
  | wrongType (found : Found) (expected : String)
  | wrongValue (found : Found) (expected : String)
  | wrongLength (length : Nat) (expected : String)
  | missingField (name : String)
  | duplicateField (name : String)
  | unknownVariant (name : String) (known : List String)
  | badDate (reason : String)

/-- The names that a message offers. -/
def offered : List String → String
  | [a, b] => ticked a ++ " or " ++ ticked b
  | [a] => ticked a
  | names => "one of " ++ String.intercalate ", " (names.map ticked)

/-- A cause in the words of a message. -/
def Cause.message : Cause → String
  | .endInValue => "EOF while parsing a value"
  | .endInList => "EOF while parsing a list"
  | .endInObject => "EOF while parsing an object"
  | .endInString => "EOF while parsing a string"
  | .valueExpected => "expected value"
  | .wordExpected => "expected ident"
  | .badNumber => "invalid number"
  | .numberTooLarge => "number out of range"
  | .badEscape => "invalid escape"
  | .controlCharacter => "control character (\\u0000-\\u001F) found while parsing a string"
  | .loneSurrogate => "lone leading surrogate in hex escape"
  | .cutSurrogatePair => "unexpected end of hex escape"
  | .listEndExpected => "expected `,` or `]`"
  | .objectEndExpected => "expected `,` or `\x7d`"
  | .trailingComma => "trailing comma"
  | .keyExpected => "key must be a string"
  | .colonExpected => "expected `:`"
  | .trailingCharacters => "trailing characters"
  | .tooDeep => "recursion limit exceeded"
  | .wrongType found expected => "invalid type: " ++ found.describe ++ ", expected " ++ expected
  | .wrongValue found expected => "invalid value: " ++ found.describe ++ ", expected " ++ expected
  | .wrongLength length expected =>
    "invalid length " ++ toString length ++ ", expected " ++ expected
  | .missingField name => "missing field " ++ ticked name
  | .duplicateField name => "duplicate field " ++ ticked name
  | .unknownVariant name known =>
    "unknown variant " ++ ticked name ++ ", expected " ++ offered known
  | .badDate reason => reason

/-- Whether the text is JSON and only its value is not of the expected form. -/
def Cause.isAboutData : Cause → Bool
  | .wrongType _ _ | .wrongValue _ _ | .wrongLength _ _ | .missingField _ | .duplicateField _
  | .unknownVariant _ _ | .badDate _ => true
  | _ => false

/-! ## Places -/

/-- The number of bytes of a text. -/
def byteCount (cs : List Char) : Nat := cs.foldl (fun n c => n + c.utf8Size) 0

/-- Where reading stopped: at a place, or at a place that the enclosing value still has to name,
with the text that was left there. -/
inductive Place where
  | fixed (bytesLeft : Nat)
  | pending (rest : List Char)

/-- A step from a value to one of its parts. -/
inductive Segment where
  | item (index : Nat)
  | member (name : String)
  | unknown
  deriving DecidableEq

/-- A fault of a JSON text. -/
structure Fault where
  cause : Cause
  place : Place
  path : List Segment := []

namespace Fault

/-- A fault in front of the text that is left. -/
def here (cause : Cause) (rest : List Char) : Fault := ⟨cause, .fixed (byteCount rest), []⟩

/-- A fault at the first byte of the text that is left. -/
def next (cause : Cause) (rest : List Char) : Fault := ⟨cause, .fixed (byteCount rest - 1), []⟩

/-- The fault seen from the value that holds the faulty part. -/
def within (segment : Segment) (fault : Fault) : Fault :=
  { fault with path := segment :: fault.path }

/-- Names the place of a pending fault: where the text stands after `close`. -/
def settle (close : List Char → List Char) (fault : Fault) : Fault :=
  match fault.place with
  | .fixed _ => fault
  | .pending rest => { fault with place := .fixed (byteCount (close rest)) }

end Fault

/-! ## Messages -/

/-- Line and column after a number of bytes: the column counts the bytes since the last line feed,
so it is the one-based column of the last byte before the place. -/
def lineAndColumn (text : String) (consumed : Nat) : Nat × Nat :=
  (text.toUTF8.toList.take consumed).foldl
    (fun at' byte => if byte = 10 then (at'.1 + 1, 0) else (at'.1, at'.2 + 1)) (1, 0)

/-- The steps after the first: a member follows a point, an item stands in brackets. -/
def renderSteps : List Segment → String
  | [] => ""
  | .item index :: rest => "[" ++ toString index ++ "]" ++ renderSteps rest
  | .member name :: rest => "." ++ name ++ renderSteps rest
  | .unknown :: rest => ".?" ++ renderSteps rest

/-- The path in the words of a message. -/
def renderPath : List Segment → String
  | .member name :: rest => name ++ renderSteps rest
  | .unknown :: rest => "?" ++ renderSteps rest
  | path => renderSteps path

namespace Fault

/-- The message of a fault of the given text. -/
def message (text : String) (fault : Fault) : String :=
  match fault.place with
  | .pending _ => fault.cause.message
  | .fixed bytesLeft =>
    let (line, column) := lineAndColumn text (text.utf8ByteSize - bytesLeft)
    fault.cause.message ++ " at line " ++ toString line ++ " column " ++ toString column

/-- The message of a fault with the path to the faulty value, unless the path names nothing. -/
def messageWithPath (text : String) (fault : Fault) : String :=
  if fault.path.all (· = .unknown) then fault.message text
  else renderPath fault.path ++ ": " ++ fault.message text

end Fault

end QuantumBlocks.Json
