import QuantumBlocks.Json.Record
import QuantumBlocks.Json.Printer
import QuantumBlocks.Number.Decimal
import QuantumBlocks.Text.Blank

/-!
# Blocks

A program is a list of blocks. On the wire a block is an opcode with loosely typed arguments;
everything else works with typed blocks, whose arguments are integers. An argument that is no
number at all gives the default of its block, and a number beyond 64 bits gives the nearest one
within.
-/

namespace QuantumBlocks

open Json Number

/-! ## Blocks on the wire -/

/-- A block on the wire: its opcode and its arguments by name. -/
structure RawBlock where
  opcode : String
  args : List (String × Value) := []

namespace RawBlock

/-- A block whose arguments are given as a list, the last of equal names counting. -/
def ofList (opcode : String) (args : List (String × Value)) : RawBlock := ⟨opcode, membersOf args⟩

/-- The parts of a block that were read so far. -/
structure Parts where
  opcode : Option String := none
  args : Option (List (String × Value)) := none

/-- The form of a block; arguments may be left out. -/
def form : Form Parts RawBlock where
  name := "RawBlock"
  fields :=
    [.slot "opcode" .string Parts.opcode fun s p => { p with opcode := some s },
      .slot "args" (.members .value "a map") Parts.args (fun a p => { p with args := some a }) true]
  empty := {}
  complete p :=
    match p.opcode with
    | some opcode => .ok (ofList opcode (p.args.getD []))
    | none => .error "opcode"

/-- Reads a block on the wire. -/
def decoder : Decoder RawBlock := .record form

/-- A block as it goes over the wire. -/
def toValue (b : RawBlock) : Value :=
  .object [("args", .object b.args), ("opcode", .string b.opcode)]

end RawBlock

/-! ## Arguments -/

/-- The whole part of a number, brought into 64 bits. -/
def wholePart (x : Binary64) : Int := clampSigned64 x.truncate

/-- The integer that a text writes, as an integer or else as a decimal number cut to its whole
part. -/
def integerOfText? (s : String) : Option Int :=
  let cs := Text.trimChars s.toList
  match readSigned64? cs with
  | some n => some n
  | none => ((Decimal.read? cs).bind Decimal.toBinary64?).map wholePart

/-- The integer that a number gives. -/
def integerOfNumeral : Numeral → Int
  | .integer n => if fitsSigned64 n then n else wholePart ⟨n < 0, Binary64.ofNat n.natAbs⟩
  | .double x => wholePart x

/-- The integer that an argument gives. -/
def integer? : Value → Option Int
  | .number n => some (integerOfNumeral n)
  | .string s => integerOfText? s
  | .bool b => some (if b then 1 else 0)
  | .null | .list _ | .object _ => none

/-- The integer that the argument of a name gives, or the default. -/
def RawBlock.integerArg (b : RawBlock) (name : String) (default : Int) : Int :=
  ((member? name b.args).bind integer?).getD default

/-! ## Typed blocks -/

/-- A block that applies a gate. -/
inductive GateBlock where
  | h (qubit : Int)
  | x (qubit : Int)
  | y (qubit : Int)
  | z (qubit : Int)
  | cx (control target : Int)
  deriving DecidableEq, Repr

/-- A typed block. -/
inductive Block where
  | createCircuit (numQubits : Int)
  | gate (g : GateBlock)
  | measureAll
  | unrecognized (opcode : String)
  deriving DecidableEq, Repr

namespace Block

/-- What the opcode of every gate begins with, known or not. -/
def gateOpcode : String := "quantum_gate"

/-- The typed block of a block on the wire. -/
def ofRaw (b : RawBlock) : Block :=
  match b.opcode with
  | "quantum_createCircuit" => .createCircuit (b.integerArg "NUM_QUBITS" 1)
  | "quantum_gateH" => .gate (.h (b.integerArg "QUBIT" 0))
  | "quantum_gateX" => .gate (.x (b.integerArg "QUBIT" 0))
  | "quantum_gateY" => .gate (.y (b.integerArg "QUBIT" 0))
  | "quantum_gateZ" => .gate (.z (b.integerArg "QUBIT" 0))
  | "quantum_gateCX" => .gate (.cx (b.integerArg "CONTROL" 0) (b.integerArg "TARGET" 1))
  | "quantum_measureAll" => .measureAll
  | other => .unrecognized other

/-- Whether a block counts towards the number of gates: gates do, and so do unknown opcodes that
begin like one. -/
def countsAsGate : Block → Bool
  | .gate _ => true
  | .unrecognized opcode => gateOpcode.toList.isPrefixOf opcode.toList
  | .createCircuit _ | .measureAll => false

/-- Reads a block. -/
def decoder : Decoder Block := RawBlock.decoder.map ofRaw

/-- Reads a program. -/
def listDecoder : Decoder (List Block) := .list decoder

end Block

end QuantumBlocks
