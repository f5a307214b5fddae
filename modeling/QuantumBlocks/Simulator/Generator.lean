/-!
# Random numbers

A stream cipher with twelve rounds as a source of random numbers. The key comes from a seed of 64
bits; the blocks of the stream are numbered, and each gives eight words of 64 bits. Main
statement: drawing gives the words of the stream one after the other.
-/

namespace QuantumBlocks

namespace Generator

/-! ## Words -/

/-- A word turned left by some bits. -/
def rotateLeft (x : UInt32) (bits : UInt32) : UInt32 := (x <<< bits) ||| (x >>> (32 - bits))

/-- A word turned right by some bits. -/
def rotateRight (x : UInt32) (bits : UInt32) : UInt32 := (x >>> bits) ||| (x <<< (32 - bits))

/-! ## Blocks -/

/-- The words that are mixed. -/
abbrev Words := Vector UInt32 16

/-- Mixes four words. -/
def quarterRound (s : Words) (a b c d : Fin 16) : Words :=
  let s := s.set a (s[a] + s[b])
  let s := s.set d (rotateLeft (s[d] ^^^ s[a]) 16)
  let s := s.set c (s[c] + s[d])
  let s := s.set b (rotateLeft (s[b] ^^^ s[c]) 12)
  let s := s.set a (s[a] + s[b])
  let s := s.set d (rotateLeft (s[d] ^^^ s[a]) 8)
  let s := s.set c (s[c] + s[d])
  s.set b (rotateLeft (s[b] ^^^ s[c]) 7)

/-- Mixes the words of every column and then of every diagonal. -/
def doubleRound (s : Words) : Words :=
  let s := quarterRound s 0 4 8 12
  let s := quarterRound s 1 5 9 13
  let s := quarterRound s 2 6 10 14
  let s := quarterRound s 3 7 11 15
  let s := quarterRound s 0 5 10 15
  let s := quarterRound s 1 6 11 12
  let s := quarterRound s 2 7 8 13
  quarterRound s 3 4 9 14

/-- The number of double rounds. -/
def doubleRounds : Nat := 6

/-- The key of a stream. -/
abbrev Key := Vector UInt32 8

/-- The constants of the cipher. -/
def constants : Vector UInt32 4 := #v[0x61707865, 0x3320646e, 0x79622d32, 0x6b206574]

/-- The number of a block as two words, the lower one first, and two words that are zero. -/
def counterWords (n : UInt64) : Vector UInt32 4 := #v[n.toUInt32, (n >>> 32).toUInt32, 0, 0]

/-- The words before they are mixed: four constants, the key, and the number of the block. -/
def start (key : Key) (block : Nat) : Words :=
  constants ++ key ++ counterWords block.toUInt64

/-- The words of a block: the mixed words added to the words before. -/
def blockWords (key : Key) (block : Nat) : Words :=
  let s := start key block
  let mixed := (List.range doubleRounds).foldl (fun s _ => doubleRound s) s
  Vector.zipWith (· + ·) mixed s

/-- A word of 64 bits from its lower and its upper half. -/
def join (low high : UInt32) : UInt64 := low.toUInt64 ||| (high.toUInt64 <<< 32)

/-- The eight words of 64 bits of a block. -/
def block (key : Key) (number : Nat) : Vector UInt64 8 :=
  let w := blockWords key number
  Vector.ofFn fun n => join (w.get ⟨2 * n, by omega⟩) (w.get ⟨2 * n + 1, by omega⟩)

/-- The words of 64 bits of a stream. -/
def stream (key : Key) (n : Nat) : UInt64 :=
  (block key (n / 8)).get ⟨n % 8, Nat.mod_lt _ (by decide)⟩

/-! ## Seeds -/

/-- The next seed of a sequence. -/
def nextSeed (seed : UInt64) : UInt64 := seed * 6364136223846793005 + 11634580027462260723

/-- The word of a key that a seed gives. -/
def keyWord (seed : UInt64) : UInt32 :=
  rotateRight (((seed >>> 18) ^^^ seed) >>> 27).toUInt32 (seed >>> 59).toUInt32

/-- The key of a seed, each word from a seed of its own. -/
def keyOf (seed : UInt64) : Key :=
  Vector.ofFn fun n => keyWord ((List.range (n.val + 1)).foldl (fun s _ => nextSeed s) seed)

end Generator

/-! ## Drawing -/

/-- A stream of random words of which some have been drawn: its key, their number, and the block
that the next one comes from. -/
structure Generator where
  key : Generator.Key
  drawn : Nat
  current : Vector UInt64 8
  current_eq : current = Generator.block key (drawn / 8)

namespace Generator

/-- The stream of a seed. -/
def ofSeed (seed : UInt64) : Generator := ⟨keyOf seed, 0, block (keyOf seed) 0, rfl⟩

instance : Inhabited Generator := ⟨ofSeed 0⟩

/-- Draws a word. -/
def next (g : Generator) : UInt64 × Generator :=
  (g.current.get ⟨g.drawn % 8, Nat.mod_lt _ (by decide)⟩,
    if h : (g.drawn + 1) / 8 = g.drawn / 8 then
      { g with drawn := g.drawn + 1, current_eq := by rw [h]; exact g.current_eq }
    else ⟨g.key, g.drawn + 1, block g.key ((g.drawn + 1) / 8), rfl⟩)

/-- The word that is drawn is the next one of the stream. -/
theorem next_fst (g : Generator) : g.next.1 = stream g.key g.drawn := by
  simp only [next, stream]
  congr 1
  exact g.current_eq

/-- Drawing keeps the stream. -/
theorem key_next (g : Generator) : g.next.2.key = g.key := by
  unfold next
  dsimp only
  split <;> rfl

/-- Drawing counts the words drawn. -/
theorem drawn_next (g : Generator) : g.next.2.drawn = g.drawn + 1 := by
  unfold next
  dsimp only
  split <;> rfl

/-! ## Uniform numbers -/

/-- The number in the unit interval that a word gives: its upper 53 bits as a fraction. -/
def unitInterval (word : UInt64) : Float := (word >>> 11).toFloat / 9007199254740992.0

/-- Draws a number in the unit interval. -/
def nextUniform (g : Generator) : Float × Generator :=
  let (word, g) := g.next
  (unitInterval word, g)

end Generator

end QuantumBlocks
