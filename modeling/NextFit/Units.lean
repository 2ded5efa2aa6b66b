/-
This file counts: how many objects of a given size hold a number of bytes, and how
many units the block for a request takes.
-/

import NextFit.Alignment

namespace NextFit

/-- The number of objects that hold the given bytes once these are rounded up to the
alignment. There is no answer if the rounded number does not fit in a word. The size of an
object is looked at before the alignment. -/
def objectCount (bytes objectSize alignment : Word) : Except Fault (Option Word) := do
  if objectSize = 0 then
    throw .zeroObjectSize
  else
    match ← alignUp? bytes alignment with
    | none => return none
    | some rounded =>
      return some (← plus (rounded / objectSize) (if rounded % objectSize = 0 then 0 else 1))

/-- The number of units in the block for a request of the given size, the header included.
There is no answer if that does not fit in a word. -/
def blockUnits (size : Word) : Except Fault (Option Word) := do
  match ← objectCount size unitBytes headerAlignment with
  | none => return none
  | some units => return plus? units 1

/-- The bytes that a number of units takes, which must fit in a word. -/
def bytesOf (units : Word) : Except Fault Word :=
  times units unitBytes

end NextFit
