/-
This file makes room: it asks the grower for memory, sets up the free list in the first
region that comes, and takes blocks off the list, growing the heap when none fits.
-/

import NextFit.Heap.Basic

namespace NextFit

/-- As often as the address space has units. A heap that grew more often has got a unit
twice. -/
def mostGrowths : Nat := UInt64.size / 16

namespace Action

variable {G E : Type} [Grower G E]

/-- Asks the grower for at least the given number of units and records the answer. -/
def growBy (units : Word) : Action G E (Option Region) := do
  match ← onGrower (Grower.grow units) with
  | .ok region =>
    record (.grew region.units region.start units)
    if region.units < units then
      throw .shortGrowth
    else
      return some region
  | .error error =>
    record (.growthFailed units error)
    return none

/-- Sets up the free list. The first unit that the grower hands over becomes the sentinel, and
the rest of that region becomes free. -/
def start : Action G E (Option FreeList) := do
  let some region ← growBy 1
    | return none
  let list ← onMemory (FreeList.create region.start)
  if 1 < region.units then
    return some (← onMemory (list.extend (Address.above region.start 1) (region.units - 1)))
  else
    return some list

/-- Takes a block of exactly the given number of units off the free list, and grows the heap
for as long as none is large enough. -/
def takeOrGrow (units : Word) : Nat → Action G E (Option Address)
  | 0 => throw .endlessGrowth
  | fuel + 1 => do
    match ← takeFree units with
    | some header => return some header
    | none =>
      match ← growBy units with
      | none => return none
      | some region =>
        addFree region.start region.units
        takeOrGrow units fuel

/-- Sees to it that there is a free list, and answers whether there is one. -/
def ready : Action G E Bool := do
  match (← get).heap.free with
  | some _ => return true
  | none =>
    match ← start with
    | none => return false
    | some list =>
      setFree list
      return true

/-- Obtains a block of exactly the given number of units. Its size is set; its link is
stale. -/
def obtain (units : Word) : Action G E (Option Address) := do
  if ← ready then
    takeOrGrow units mostGrowths
  else
    return none

end Action

end NextFit
