/-
This file puts a block on a free list. The block goes between the two nodes that lie
below and above it, and it is merged with either of them if they touch. The sentinel
is merged with nothing.
-/

import NextFit.FreeList.Circle

namespace NextFit

namespace FreeList

/-! ### Finding the place -/

/-- Whether a block belongs between a node and the next one: it lies between them, or the
address falls there and the block lies above or below all nodes. -/
def between (current next block : Address) : Bool :=
  (current < block && block < next) ||
    (next ≤ current && (current < block || block < next))

/-- The node after which the block belongs, looked for from the current node on. A block that
turns up on the way is on the list already. -/
def placeFrom (memory : Memory) (block : Address) : Nat → Address → Except Fault Address
  | 0, _ => .error .endlessWalk
  | fuel + 1, current =>
    if block = current ∨ block = memory.next current then .error (.alreadyFree block)
    else if between current (memory.next current) block then .ok current
    else placeFrom memory block fuel (memory.next current)

/-- The node after which the block belongs, looked for from the rover on. -/
def findPlace (list : FreeList) (block : Address) (memory : Memory) : Except Fault Address :=
  placeFrom memory block longestWalk list.rover

/-! ### Putting it there -/

/-- Links the block to the node above it, or takes that node in if the block ends where the
node begins. -/
def joinAbove (list : FreeList) (block above : Address) : Surgery Unit := do
  let memory ← get
  if above ≠ list.sentinel ∧ memory.blockEnd block = above then
    let size ← ofExcept <| plus (memory.size block) (memory.size above)
    set ((memory.setSize block size).setNext block (memory.next above))
  else
    set (memory.setNext block above)

/-- Links the node below the block to it, or lets that node take the block in if it ends where
the block begins. -/
def joinBelow (below block : Address) : Surgery Unit := do
  let memory ← get
  if memory.blockEnd below = block then
    let size ← ofExcept <| plus (memory.size below) (memory.size block)
    set ((memory.setSize below size).setNext below (memory.next block))
  else
    set (memory.setNext below block)

/-- Puts the block whose header stands at the given address on the list. The rover moves to
the node below it. -/
def insert (list : FreeList) (block : Address) : Surgery FreeList := do
  if (← get).size block = 0 then
    throw .emptyBlock
  else
    let below ← Surgery.ask (list.findPlace block)
    list.joinAbove block ((← get).next below)
    joinBelow below block
    return { list with rover := below }

/-- Puts fresh memory on the list: writes a header for it and inserts the block. -/
def extend (list : FreeList) (start : Address) (units : Word) : Surgery FreeList := do
  modify (·.setHeader start { next := 0, size := units })
  list.insert start

end FreeList

end NextFit
