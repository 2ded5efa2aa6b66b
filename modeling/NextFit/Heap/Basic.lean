/-
This file holds the state of a heap and the steps from which its calls are made. A call
works on the memory, the free list and the grower of the heap and records what it does.
If it stops at a fault, all that it did until then stays done.
-/

import NextFit.Event
import NextFit.FreeList.Insert
import NextFit.FreeList.Take
import NextFit.Grower.Basic

namespace NextFit

/-- A heap over a grower with states in `G`. -/
structure Heap (G : Type) where
  /-- The memory, of which the heap manages the regions it got from the grower. -/
  memory : Memory := {}
  /-- Where more memory comes from. -/
  grower : G
  /-- The free blocks. There is no list until something has been allocated. -/
  free : Option FreeList := none

/-- A heap at work, with what it has recorded. -/
structure Session (G E : Type) where
  /-- The heap. -/
  heap : Heap G
  /-- The events, the first one first. -/
  log : List (Event E) := []

/-- A call on a heap. What it did before a fault stays. -/
abbrev Action (G E : Type) := EStateM Fault (Session G E)

namespace Action

variable {G E α : Type}

/-- Records an event. -/
def record (event : Event E) : Action G E Unit :=
  modify fun session => { session with log := session.log ++ [event] }

/-- Works on the memory of the heap. -/
def onMemory (work : Surgery α) : Action G E α := fun session =>
  match work session.heap.memory with
  | .ok value memory => .ok value { session with heap := { session.heap with memory } }
  | .error fault memory => .error fault { session with heap := { session.heap with memory } }

/-- Works with the grower of the heap. -/
def onGrower (work : EStateM Fault G α) : Action G E α := fun session =>
  match work session.heap.grower with
  | .ok value grower => .ok value { session with heap := { session.heap with grower } }
  | .error fault grower => .error fault { session with heap := { session.heap with grower } }

/-- The header at an address. -/
def headerAt (address : Address) : Action G E Header :=
  return (← get).heap.memory.header address

/-- Writes a header. -/
def writeHeader (address : Address) (header : Header) : Action G E Unit :=
  onMemory (modify (·.setHeader address header))

/-- Puts a free list in the place of the one the heap has. -/
def setFree (list : FreeList) : Action G E Unit :=
  modify fun session => { session with heap := { session.heap with free := some list } }

/-- Takes a block of exactly the given number of units off the free list, if there is a list
and a large enough block on it. -/
def takeFree (units : Word) : Action G E (Option Address) := do
  match (← get).heap.free with
  | none => return none
  | some list =>
    let (header, list) ← onMemory (list.take units)
    setFree list
    return header

/-- Puts units that nobody uses on the free list, if there is a list. -/
def addFree (start : Address) (units : Word) : Action G E Unit := do
  match (← get).heap.free with
  | none => return
  | some list => setFree (← onMemory (list.extend start units))

/-- Puts the spare units of a block on the free list, if there are any. -/
def addSpare (start : Address) (units : Word) : Action G E Unit :=
  if 0 < units then addFree start units else return

end Action

end NextFit
