import QuantumBlocks.Circuit.Instruction

/-!
# State vectors

The state of `n` qubits is a list of `2 ^ n` amplitudes; bit `q` of an index is the value of qubit
`q`. Gates work in place on pairs of entries whose indices differ in one bit. Every access to an
entry is checked, and a gate on a qubit that the state does not have gives no state at all.

Amplitudes have double precision. The order of the operations is fixed everywhere, since another
order would round differently.
-/

namespace QuantumBlocks

/-! ## Amplitudes -/

/-- A complex number in double precision. -/
structure Amplitude where
  re : Float
  im : Float

namespace Amplitude

/-- The number zero. -/
def zero : Amplitude := ⟨0.0, 0.0⟩

/-- The number one. -/
def one : Amplitude := ⟨1.0, 0.0⟩

/-- The imaginary unit. -/
def i : Amplitude := ⟨0.0, 1.0⟩

instance : Inhabited Amplitude := ⟨zero⟩

/-- The sum. -/
def add (a b : Amplitude) : Amplitude := ⟨a.re + b.re, a.im + b.im⟩

/-- The difference. -/
def sub (a b : Amplitude) : Amplitude := ⟨a.re - b.re, a.im - b.im⟩

/-- The negative. -/
def neg (a : Amplitude) : Amplitude := ⟨-a.re, -a.im⟩

/-- The product. -/
def mul (a b : Amplitude) : Amplitude :=
  ⟨a.re * b.re - a.im * b.im, a.re * b.im + a.im * b.re⟩

/-- The product with a real factor. -/
def scale (factor : Float) (a : Amplitude) : Amplitude := ⟨factor * a.re, factor * a.im⟩

/-- The quotient by a real number. -/
def divide (a : Amplitude) (divisor : Float) : Amplitude := ⟨a.re / divisor, a.im / divisor⟩

/-- The square of the absolute value, which is the weight of the entry. -/
def weight (a : Amplitude) : Float := a.re * a.re + a.im * a.im

end Amplitude

/-- One over the square root of two. -/
def invSqrtTwo : Float := 0.7071067811865476

/-! ## Pairs of entries -/

variable {α : Type}

/-- Replaces two entries by what `f` makes of them. -/
def updatePair (f : α → α → α × α) (v : Array α) (i j : Nat) : Option (Array α) :=
  if h : i < v.size ∧ j < v.size then
    let pair := f v[i] v[j]
    some ((v.set i pair.1 h.1).set j pair.2 (by simpa using h.2))
  else none

/-- Goes through `count` indices from `i` on, and replaces the entries at each chosen index and at
its partner. -/
def sweepFrom (chosen : Nat → Bool) (partner : Nat → Nat) (f : α → α → α × α) :
    (count i : Nat) → Array α → Option (Array α)
  | 0, _, v => some v
  | count + 1, i, v =>
    if chosen i then
      match updatePair f v i (partner i) with
      | some v => sweepFrom chosen partner f count (i + 1) v
      | none => none
    else sweepFrom chosen partner f count (i + 1) v

/-- Goes through all indices of a vector. -/
def sweep (chosen : Nat → Bool) (partner : Nat → Nat) (f : α → α → α × α) (v : Array α) :
    Option (Array α) :=
  sweepFrom chosen partner f v.size 0 v

/-- Whether bit `q` of an index is set. -/
def hasBit (q i : Nat) : Bool := i.testBit q

/-- Whether bit `q` of a word of 64 bits is set. A word is shifted by a number of places modulo its
size, so for places that it does not have this is another bit. -/
def hasWordBit (q word : Nat) : Bool := hasBit (q % 64) word

/-- The places that a word has are those of the index. -/
theorem hasWordBit_of_lt {q : Nat} (h : q < 64) (word : Nat) :
    hasWordBit q word = hasBit q word := by
  rw [hasWordBit, Nat.mod_eq_of_lt h]

/-- The index with bit `q` set. -/
def withBit (q i : Nat) : Nat := i ||| 1 <<< q

/-! ## State vectors -/

/-- The state of some qubits. -/
structure Statevector where
  numQubits : Nat
  amplitudes : Array Amplitude

namespace Statevector

/-- The state in which all qubits are zero. -/
def init (numQubits : Nat) : Statevector where
  numQubits := numQubits
  amplitudes := (Array.replicate (1 <<< numQubits) Amplitude.zero).setIfInBounds 0 Amplitude.one

/-- The state with its amplitudes changed. -/
def withAmplitudes (s : Statevector) (v : Array Amplitude) : Statevector :=
  { s with amplitudes := v }

/-! ## Gates -/

/-- Exchanges the entries that differ in the qubit. -/
def applyX (q : Nat) (v : Array Amplitude) : Option (Array Amplitude) :=
  sweep (fun i => !hasBit q i) (withBit q) (fun a b => (b, a)) v

/-- Exchanges the entries that differ in the qubit, with factors `-i` and `i`. -/
def applyY (q : Nat) (v : Array Amplitude) : Option (Array Amplitude) :=
  sweep (fun i => !hasBit q i) (withBit q)
    (fun a b => (Amplitude.i.neg.mul b, Amplitude.i.mul a)) v

/-- Negates the entries in which the qubit is set. -/
def applyZ (q : Nat) (v : Array Amplitude) : Option (Array Amplitude) :=
  some (v.mapIdx fun i a => if hasBit q i then a.neg else a)

/-- Replaces the entries that differ in the qubit by their scaled sum and difference. -/
def applyH (q : Nat) (v : Array Amplitude) : Option (Array Amplitude) :=
  sweep (fun i => !hasBit q i) (withBit q)
    (fun a b => ((a.add b).scale invSqrtTwo, (a.sub b).scale invSqrtTwo)) v

/-- Exchanges the entries that differ in the target where the control is set. -/
def applyCX (control target : Nat) (v : Array Amplitude) : Option (Array Amplitude) :=
  sweep (fun i => hasBit control i && !hasBit target i) (withBit target) (fun a b => (b, a)) v

/-- Applies a gate to its first operands, of which there must be enough. -/
def applyGate (g : Gate) (qubits : List Nat) (v : Array Amplitude) : Option (Array Amplitude) :=
  match g, qubits with
  | .h, q :: _ => applyH q v
  | .x, q :: _ => applyX q v
  | .y, q :: _ => applyY q v
  | .z, q :: _ => applyZ q v
  | .cx, control :: target :: _ => applyCX control target v
  | _, _ => none

/-- Applies the gate of an instruction; a measurement changes nothing here. -/
def apply (s : Statevector) (i : Instruction) : Option Statevector :=
  match i.kind with
  | .gate g => (applyGate g i.qubits s.amplitudes).map s.withAmplitudes
  | .measure => some s

/-- Applies instructions one after the other. -/
def applyAll (s : Statevector) (is : List Instruction) : Option Statevector := is.foldlM apply s

/-! ## Measurement -/

/-- Adds up the weights of `count` entries from `i` on in which the qubit is set. -/
def weightFrom (q : Nat) (v : Array Amplitude) : (count i : Nat) → Float → Float
  | 0, _, sum => sum
  | count + 1, i, sum =>
    match v[i]? with
    | some a => weightFrom q v count (i + 1) (if hasBit q i then sum + a.weight else sum)
    | none => sum

/-- The probability that a qubit reads one. -/
def probabilityOne (s : Statevector) (q : Nat) : Float :=
  weightFrom q s.amplitudes s.amplitudes.size 0 0.0

/-- The state after a qubit was read: entries that disagree with the reading vanish, the others
are divided by `norm`, if that is positive. -/
def collapse (s : Statevector) (q : Nat) (reading : Bool) (norm : Float) : Statevector :=
  s.withAmplitudes (s.amplitudes.mapIdx fun i a =>
    if hasBit q i == reading then if 0.0 < norm then a.divide norm else a else Amplitude.zero)

/-- Reads a qubit; it reads one if the random number is below the probability of that. -/
def measure (s : Statevector) (q : Nat) (random : Float) : Bool × Statevector :=
  let p := s.probabilityOne q
  let reading : Bool := random < p
  let norm := (if reading then p else 1.0 - p).sqrt
  (reading, s.collapse q reading norm)

/-! ## Sampling -/

/-- The first of `count` indices from `i` on at which the sum of the weights exceeds `random`. -/
def sampleFrom (random : Float) (v : Array Amplitude) : (count i : Nat) → Float → Option Nat
  | 0, _, _ => none
  | count + 1, i, sum =>
    match v[i]? with
    | some a =>
      if random < sum + a.weight then some i
      else sampleFrom random v count (i + 1) (sum + a.weight)
    | none => none

/-- The last of the first `count` indices with a positive weight, or zero. -/
def lastWeighted (v : Array Amplitude) : (count : Nat) → Nat
  | 0 => 0
  | count + 1 =>
    match v[count]? with
    | some a => if 0.0 < a.weight then count else lastWeighted v count
    | none => lastWeighted v count

/-- Reads all qubits without changing the state. Rounding can leave the sum of all weights below
the random number; then the last index with a weight is taken. -/
def sample (s : Statevector) (random : Float) : Nat :=
  match sampleFrom random s.amplitudes s.amplitudes.size 0 0.0 with
  | some i => i
  | none => lastWeighted s.amplitudes s.amplitudes.size

end Statevector

end QuantumBlocks
