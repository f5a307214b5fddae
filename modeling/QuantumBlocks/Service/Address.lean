import QuantumBlocks.Number.Binary64
import QuantumBlocks.Text.Quoted

/-!
# Socket addresses

The address of a host with a port, such as `127.0.0.1:8000` or `[::1]:80`. An address of version 6
may leave out one run of zero groups, may end in an address of version 4, and may name a scope.
Writing gives the shortest usual form.
-/

namespace QuantumBlocks.Service

open Number

/-! ## Addresses -/

/-- The address of a host: four octets, or eight groups of 16 bits with a scope. -/
inductive Host where
  | version4 (octets : List Nat)
  | version6 (groups : List Nat) (scope : Nat)
  deriving DecidableEq, Repr

/-- The address of a host with a port. -/
structure SocketAddress where
  host : Host
  port : Nat
  deriving DecidableEq, Repr

namespace SocketAddress

/-- Whether the host has an address of version 6. -/
def isVersion6 (a : SocketAddress) : Bool :=
  match a.host with
  | .version4 _ => false
  | .version6 _ _ => true

/-! ## Numbers -/

/-- The value of a character as a digit, where letters go on after nine. -/
def digit? (base : Nat) (c : Char) : Option Nat :=
  let value? :=
    if '0' ≤ c ∧ c ≤ '9' then some (c.toNat - '0'.toNat)
    else if 'a' ≤ c ∧ c ≤ 'z' then some (c.toNat - 'a'.toNat + 10)
    else if 'A' ≤ c ∧ c ≤ 'Z' then some (c.toNat - 'A'.toNat + 10)
    else none
  value?.filter (· < base)

/-- How a number is written: its base, how many digits it may have, whether zeros may stand in
front of it, and the greatest number. -/
structure Numbering where
  base : Nat
  maxDigits : Option Nat
  zerosInFront : Bool
  greatest : Nat

/-- An octet of an address of version 4. -/
def Numbering.octet : Numbering := ⟨10, some 3, false, 255⟩

/-- A group of an address of version 6. -/
def Numbering.group : Numbering := ⟨16, some 4, true, 65535⟩

/-- A port. -/
def Numbering.port : Numbering := ⟨10, none, true, 65535⟩

/-- A scope of an address of version 6. -/
def Numbering.scope : Numbering := ⟨10, none, true, maxUnsigned32⟩

/-- A number off the front of a text. -/
def readNumber (n : Numbering) (cs : List Char) : Option (Nat × List Char) :=
  let digits := cs.takeWhile fun c => (digit? n.base c).isSome
  let value := digits.foldl (fun v c => n.base * v + (digit? n.base c).getD 0) 0
  if digits = [] ∨ n.maxDigits.any (· < digits.length)
      ∨ (!n.zerosInFront ∧ digits.head? = some '0' ∧ 1 < digits.length) ∨ n.greatest < value then
    none
  else some (value, cs.drop digits.length)

/-- A character off the front of a text. -/
def readMark (mark : Char) (cs : List Char) : Option (List Char) :=
  match cs with
  | c :: rest => if c = mark then some rest else none
  | [] => none

/-- A mark off the front of a text, unless this is the first of several parts. -/
def readSeparator (mark : Char) (first : Bool) (cs : List Char) : Option (List Char) :=
  if first then some cs else readMark mark cs

/-! ## Hosts -/

/-- Octets of an address of version 4 off the front of a text. -/
def readOctets : (count : Nat) → (first : Bool) → List Char → Option (List Nat × List Char)
  | 0, _, cs => some ([], cs)
  | count + 1, first, cs => do
    let cs ← readSeparator '.' first cs
    let (value, cs) ← readNumber .octet cs
    let (octets, cs) ← readOctets count false cs
    return (value :: octets, cs)

/-- The two groups that four octets make. -/
def groupsOfOctets : List Nat → List Nat
  | [a, b, c, d] => [256 * a + b, 256 * c + d]
  | _ => []

/-- An address of version 4 off the front of a text, as two groups. -/
def readEmbedded (first : Bool) (cs : List Char) : Option (List Nat × List Char) := do
  let cs ← readSeparator ':' first cs
  let (octets, cs) ← readOctets 4 true cs
  return (groupsOfOctets octets, cs)

/-- A group of an address of version 6 off the front of a text. -/
def readGroup (first : Bool) (cs : List Char) : Option (Nat × List Char) := do
  let cs ← readSeparator ':' first cs
  readNumber .group cs

/-- Groups off the front of a text, the text after them, and whether the last two were written as
an address of version 4. -/
structure Groups where
  values : List Nat
  rest : List Char
  embedded : Bool := false

/-- As many groups as there are off the front of a text, but at most `count`. -/
def readGroups : (count : Nat) → (first : Bool) → List Char → Groups
  | 0, _, cs => ⟨[], cs, false⟩
  | count + 1, first, cs =>
    match if 0 < count then readEmbedded first cs else none with
    | some (values, rest) => ⟨values, rest, true⟩
    | none =>
      match readGroup first cs with
      | some (value, rest) =>
        let later := readGroups count false rest
        { later with values := value :: later.values }
      | none => ⟨[], cs, false⟩

/-- The groups of an address of version 6 off the front of a text. Two colons stand for one or more
groups that are zero. -/
def readVersion6 (cs : List Char) : Option (List Nat × List Char) :=
  let head := readGroups 8 true cs
  if head.values.length = 8 then some (head.values, head.rest)
  else if head.embedded then none
  else
    match head.rest with
    | ':' :: ':' :: rest =>
      let tail := readGroups (7 - head.values.length) true rest
      let zeros := List.replicate (8 - head.values.length - tail.values.length) 0
      some (head.values ++ zeros ++ tail.values, tail.rest)
    | _ => none

/-! ## Whole addresses -/

/-- A port after its colon off the front of a text. -/
def readPort (cs : List Char) : Option (Nat × List Char) := do
  readNumber .port (← readMark ':' cs)

/-- A scope after its mark off the front of a text, or none. -/
def readScope (cs : List Char) : Nat × List Char :=
  match (readMark '%' cs).bind (readNumber .scope) with
  | some found => found
  | none => (0, cs)

/-- A socket address of version 4 off the front of a text. -/
def readSocket4 (cs : List Char) : Option (SocketAddress × List Char) := do
  let (octets, cs) ← readOctets 4 true cs
  let (port, cs) ← readPort cs
  return (⟨.version4 octets, port⟩, cs)

/-- A socket address of version 6 off the front of a text. -/
def readSocket6 (cs : List Char) : Option (SocketAddress × List Char) := do
  let cs ← readMark '[' cs
  let (groups, cs) ← readVersion6 cs
  let (scope, cs) := readScope cs
  let cs ← readMark ']' cs
  let (port, cs) ← readPort cs
  return (⟨.version6 groups scope, port⟩, cs)

/-- The socket address that a text writes. -/
def read? (s : String) : Option SocketAddress :=
  match (readSocket4 s.toList).orElse fun _ => readSocket6 s.toList with
  | some (address, []) => some address
  | _ => none

/-! ## Writing -/

/-- The number of zero groups at the front. -/
def zeroRun (groups : List Nat) : Nat := (groups.takeWhile (· = 0)).length

/-- Where the longest run of zero groups begins, and its length; the first of equally long ones. -/
def longestZeroRun (groups : List Nat) : Nat × Nat :=
  (List.range groups.length).foldl
    (fun best start =>
      let length := zeroRun (groups.drop start)
      if best.2 < length then (start, length) else best) (0, 0)

/-- Groups between colons. -/
def renderGroups (groups : List Nat) : String := String.intercalate ":" (groups.map Text.hex)

/-- Octets between points. -/
def renderOctets (octets : List Nat) : String := String.intercalate "." (octets.map toString)

/-- The groups of an address of version 6. One that stands for an address of version 4 ends in that
address; in the others two colons stand for the longest run of zeros, if it is longer than one. -/
def renderVersion6 (groups : List Nat) : String :=
  match groups with
  | [0, 0, 0, 0, 0, 0xFFFF, a, b] =>
    "::ffff:" ++ renderOctets [a / 256, a % 256, b / 256, b % 256]
  | _ =>
    let (start, length) := longestZeroRun groups
    if 1 < length then
      renderGroups (groups.take start) ++ "::" ++ renderGroups (groups.drop (start + length))
    else renderGroups groups

/-- A scope after its mark, if there is one. -/
def renderScope (scope : Nat) : String := if scope = 0 then "" else "%" ++ toString scope

/-- A host as it stands before a port. -/
def renderHost : Host → String
  | .version4 octets => renderOctets octets
  | .version6 groups scope => "[" ++ renderVersion6 groups ++ renderScope scope ++ "]"

/-- A socket address in its usual form. -/
def render (a : SocketAddress) : String := renderHost a.host ++ ":" ++ toString a.port

end SocketAddress

end QuantumBlocks.Service
