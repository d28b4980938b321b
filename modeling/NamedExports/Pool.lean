/-!
# Pools of scratch memory

Scratch memory for scans, kept for the next scan when one has ended.  A scan that finds the pool
empty makes memory of its own, which stays in the pool from then on.
-/

namespace NamedExports

/-- The scratch memories that no scan holds, each by a number of its own, the one to be taken next
first. -/
structure Pool where
  free : List Nat
  deriving Repr, DecidableEq

namespace Pool

/-- A pool of a given size. -/
def ofSize (size : Nat) : Pool := ⟨List.range size⟩

/-- Takes a memory out of the pool. -/
def take? (pool : Pool) : Option (Nat × Pool) :=
  match pool.free with
  | [] => none
  | memory :: rest => some (memory, ⟨rest⟩)

/-- Gives a memory back. -/
def give (pool : Pool) (memory : Nat) : Pool := ⟨memory :: pool.free⟩

end Pool

end NamedExports
