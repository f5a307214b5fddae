import QuantumBlocks.Circuit.Basic
import QuantumBlocks.Counts.Basic
import QuantumBlocks.Simulator.Generator
import QuantumBlocks.Simulator.Statevector

/-!
# Running circuits

A circuit is run shot by shot. The gates before the first measurement are the same for all shots
and are applied once. If nothing but measurements follows, a shot is one sample of that state;
otherwise a shot goes through the rest of the circuit on a copy of the state, reading qubit after
qubit. What a shot reads is written as bits, and the bits of all shots are counted.

The memory of the state is checked apart from the run, which takes it as given.
-/

namespace QuantumBlocks

/-! ## Readings -/

/-- The classical bits of a shot. -/
abbrev Record := Array Bool

namespace Record

/-- No bit is set yet. -/
def blank (numClbits : Nat) : Record := Array.replicate numClbits false

/-- Writes a bit that the record has. -/
def write? (r : Record) (clbit : Nat) (b : Bool) : Option Record :=
  if h : clbit < r.size then some (r.set clbit b h) else none

/-- The bits from `start` on, as many as `size`, if the record has them all. -/
def slice? (r : Record) (start size : Nat) : Option (List Bool) :=
  if start + size ≤ r.size then some ((r.toList.drop start).take size) else none

/-- A bit as a character. -/
def bitChar (b : Bool) : Char := if b then '1' else '0'

/-- The bits of one register, the first one rightmost. -/
def word (bits : List Bool) : String := String.ofList (bits.reverse.map bitChar)

/-- The words of registers of the given sizes from `start` on. -/
def words? (r : Record) (start : Nat) : List Nat → Option (List String)
  | [] => some []
  | size :: sizes => do
    let bits ← r.slice? start size
    let rest ← words? r (start + size) sizes
    return word bits :: rest

/-- The record as text: one word for each register, the last register first. -/
def text? (r : Record) (registers : List Nat) : Option String :=
  (r.words? 0 registers).map fun words => String.intercalate " " words.reverse

end Record

/-! ## One shot -/

namespace Circuit

/-- Writes the bits of a sample that an instruction reads. -/
def readSample (sample : Nat) (r : Record) (i : Instruction) : Option Record :=
  i.targets.foldlM (fun r target => r.write? target.2 (hasWordBit target.1 sample)) r

/-- A shot that samples the state, on which only measurements are left to do. -/
def sampledShot (c : Circuit) (s : Statevector) (g : Generator) : Option (String × Generator) := do
  let (random, g) := g.nextUniform
  let r ← c.measuredTail.foldlM (readSample (s.sample random)) (.blank c.numClbits)
  let text ← r.text? c.registers
  return (text, g)

/-- What a shot knows on its way through a circuit. -/
structure Shot where
  state : Statevector
  record : Record
  generator : Generator

/-- Reads one qubit into a bit. -/
def Shot.read (shot : Shot) (target : Nat × Nat) : Option Shot := do
  let (random, generator) := shot.generator.nextUniform
  let (reading, state) := shot.state.measure target.1 random
  let record ← shot.record.write? target.2 reading
  return { state, record, generator }

/-- Does one instruction: a measurement qubit by qubit, or a gate. -/
def Shot.step (shot : Shot) (i : Instruction) : Option Shot :=
  match i.kind with
  | .measure => i.targets.foldlM Shot.read shot
  | .gate _ => (shot.state.apply i).map fun state => { shot with state }

/-- A shot that goes through the circuit from its first measurement on. -/
def replayedShot (c : Circuit) (s : Statevector) (g : Generator) :
    Option (String × Generator) := do
  let shot ← c.measuredTail.foldlM Shot.step ⟨s, .blank c.numClbits, g⟩
  let text ← shot.record.text? c.registers
  return (text, shot.generator)

/-! ## All shots -/

/-- Counts what `shots` shots read, each with the generator that the one before has left. -/
def countShots (shot : Generator → Option (String × Generator)) :
    (shots : Nat) → Counts → Generator → Option Counts
  | 0, counts, _ => some counts
  | shots + 1, counts, g =>
    match shot g with
    | some (text, g) => countShots shot shots (counts.insert text 1) g
    | none => none

/-- What ends a run before its time: the number of amplitudes is no word, they take more memory than
there can be, or an access is out of bounds. -/
inductive Panic where
  | shiftOverflow
  | capacityOverflow
  | outOfBounds
  deriving DecidableEq, Repr

/-- Why a circuit cannot be run: it measures nothing, or its run panicked. -/
inductive RunError where
  | noMeasurements
  | panicked (p : Panic)
  deriving DecidableEq, Repr

/-- Counts the readings of all shots. -/
def countReadings (c : Circuit) (shots : Nat) (seed : UInt64) : Option Counts := do
  let state ← (Statevector.init c.numQubits).applyAll c.leadingGates
  let shot := if c.measurementsAreTerminal then c.sampledShot state else c.replayedShot state
  countShots shot shots .empty (.ofSeed seed)

/-- Runs a circuit. -/
def run (c : Circuit) (shots : Nat) (seed : UInt64) : Except RunError Counts :=
  if c.hasMeasurements then
    match c.countReadings shots seed with
    | some counts => .ok counts
    | none => .error (.panicked .outOfBounds)
  else .error .noMeasurements

/-! ## Memory -/

/-- The most bytes that one allocation can have. -/
def maxAllocation : Nat := Nat.pow 2 63 - 1

/-- Checks that a state can be allocated. The number of its amplitudes has to be a word of 64 bits,
and each of them takes 16 bytes. -/
def checkState (numQubits : Nat) : Except RunError Unit :=
  if 64 ≤ numQubits then .error (.panicked .shiftOverflow)
  else if maxAllocation < 16 * 1 <<< numQubits then .error (.panicked .capacityOverflow)
  else .ok ()

/-- Checks the memory of a run. A circuit that measures nothing is refused before its state is
allocated. -/
def checkMemory (c : Circuit) : Except RunError Unit :=
  if c.hasMeasurements then checkState c.numQubits else .ok ()

end Circuit

end QuantumBlocks
