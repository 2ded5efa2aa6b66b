/-
This file takes a block off a free list by next fit. The search begins after the rover
and goes round the circle once, the rover itself coming last. The first block that is
large enough is taken. If it has exactly the size that is wanted it leaves the circle;
if it is larger it keeps its place and gives up its top units, so that no link changes.
-/

import NextFit.FreeList.Circle

namespace NextFit

namespace FreeList

/-! ### Finding the block -/

/-- The node before the first block of at least the wanted size, looked for from the node
after the previous one up to the rover. -/
def fitAfter (memory : Memory) (rover : Address) (wanted : Word) :
    Nat → Address → Except Fault (Option Address)
  | 0, _ => .error .endlessWalk
  | fuel + 1, previous =>
    if wanted ≤ memory.size (memory.next previous) then .ok (some previous)
    else if memory.next previous = rover then .ok none
    else fitAfter memory rover wanted fuel (memory.next previous)

/-- The node before the first block of at least the wanted size, going round the circle once
from the rover. -/
def findFit (list : FreeList) (wanted : Word) (memory : Memory) :
    Except Fault (Option Address) :=
  fitAfter memory list.rover wanted longestWalk list.rover

/-! ### Taking it -/

/-- Takes the wanted units off the block after the previous node: the whole block if these
are all of its units, and otherwise its top. The header that comes with them has its size
set; its link is stale. -/
def cut (previous : Address) (wanted : Word) (memory : Memory) : Address × Memory :=
  if memory.size (memory.next previous) = wanted then
    (memory.next previous, memory.setNext previous (memory.next (memory.next previous)))
  else
    let remaining := memory.size (memory.next previous) - wanted
    let tail := (memory.next previous).above remaining
    (tail, (memory.setSize (memory.next previous) remaining).setSize tail wanted)

/-- Takes a block of exactly the wanted number of units. The rover moves to the node before
it. If no block is large enough nothing changes. -/
def take (list : FreeList) (wanted : Word) : Surgery (Option Address × FreeList) := do
  if wanted = 0 then
    throw .zeroRequest
  else
    match ← Surgery.ask (list.findFit wanted) with
    | none => return (none, list)
    | some previous =>
      let header ← modifyGet (cut previous wanted)
      return (some header, { list with rover := previous })

end FreeList

end NextFit
