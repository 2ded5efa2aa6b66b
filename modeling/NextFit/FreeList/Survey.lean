/-
This file surveys a free list: it adds up the free blocks and counts what is out of
order between neighbours on the circle.
-/

import NextFit.FreeList.Circle

namespace NextFit

/-- What is out of order on a circle. -/
structure Defects where
  /-- How many neighbours claim the same memory. -/
  overlaps : Nat := 0
  /-- How many neighbours touch and were not merged. The sentinel counts as touching none. -/
  adjacents : Nat := 0
  /-- How many times the address falls. It does so once on every sound circle. -/
  descents : Nat := 0
  deriving DecidableEq, Repr

/-- Whether the counts are those of a sound list. -/
def Defects.isSound (defects : Defects) : Bool :=
  defects.overlaps == 0 && defects.adjacents == 0 && defects.descents ≤ 1

/-- What the free blocks add up to, the sentinel left out. -/
structure Totals where
  /-- The number of free blocks. -/
  length : Nat := 0
  /-- The number of free units, headers included. -/
  units : Word := 0
  deriving DecidableEq, Repr

/-- The free bytes, headers included. -/
def Totals.bytes (totals : Totals) : Except Fault Word :=
  bytesOf totals.units

/-- What a walk round the circle finds. -/
structure Survey where
  /-- What is out of order. -/
  defects : Defects := {}
  /-- What the blocks add up to. -/
  totals : Totals := {}
  deriving DecidableEq, Repr

namespace FreeList

/-! ### Neighbours -/

/-- The links of the circle through the given nodes, from the sentinel back to it. -/
def links (list : FreeList) (nodes : List Address) : List (Address × Address) :=
  (list.sentinel :: nodes).zip (nodes ++ [list.sentinel])

/-- The address falls, or stays, along a link. -/
def descends : Address × Address → Bool
  | (previous, next) => next ≤ previous

/-- The address rises along a link, but the block ends inside the next one. -/
def overlaps (memory : Memory) : Address × Address → Bool
  | (previous, next) => previous < next && next < memory.blockEnd previous

/-- The address rises along a link between two blocks, and one ends where the other begins. -/
def touches (list : FreeList) (memory : Memory) : Address × Address → Bool
  | (previous, next) =>
    previous < next && memory.blockEnd previous == next &&
      previous != list.sentinel && next != list.sentinel

/-! ### The survey -/

/-- The defects of the circle through the given nodes. -/
def defectsOf (list : FreeList) (memory : Memory) (nodes : List Address) : Defects where
  overlaps := (list.links nodes).countP (overlaps memory)
  adjacents := (list.links nodes).countP (list.touches memory)
  descents := (list.links nodes).countP descends

/-- The number of the given nodes and the sum of their sizes, which must fit in a word. -/
def totalsOf (memory : Memory) (nodes : List Address) : Except Fault Totals := do
  let units ← nodes.foldlM (fun sum node => plus sum (memory.size node)) 0
  return { length := nodes.length, units }

/-- Surveys the list. -/
def survey (list : FreeList) (memory : Memory) : Except Fault Survey := do
  let nodes ← list.nodes memory
  return { defects := list.defectsOf memory nodes, totals := ← totalsOf memory nodes }

end FreeList

end NextFit
