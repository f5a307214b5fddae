import QuantumBlocks.Simulator.Generator

/-!
# Seeds

A simulator draws the seeds of its jobs one after the other from one generator. Whatever happens
between two draws, they are the words of the stream in their order.

* `upcoming` — the words that are still to be drawn
* `next_skip` — the draw after `k` others gives the `k`-th of them
-/

namespace QuantumBlocks.Generator

/-- The generator when `k` words have been drawn. -/
def skip (g : Generator) : Nat → Generator
  | 0 => g
  | k + 1 => (g.skip k).next.2

/-- The word of the stream that comes after `k` others. -/
def upcoming (g : Generator) (k : Nat) : UInt64 := stream g.key (g.drawn + k)

theorem key_skip (g : Generator) (k : Nat) : (g.skip k).key = g.key := by
  induction k with
  | zero => rfl
  | succ k ih => rw [skip, key_next, ih]

theorem drawn_skip (g : Generator) (k : Nat) : (g.skip k).drawn = g.drawn + k := by
  induction k with
  | zero => rfl
  | succ k ih => rw [skip, drawn_next, ih, Nat.add_assoc]

/-- A draw after `k` others gives the word of the stream that comes after `k` others. -/
theorem next_skip (g : Generator) (k : Nat) : (g.skip k).next.1 = g.upcoming k := by
  rw [next_fst, key_skip, drawn_skip]
  rfl

end QuantumBlocks.Generator
