/-
This file says what a grower is: the source of the memory that a heap manages. A
grower is asked for a number of units and answers with a region of its own choice, or
with an error.
-/

import NextFit.Word.Checked

namespace NextFit

/-- A stretch of memory handed over by a grower. -/
structure Region where
  /-- Where the region begins. -/
  start : Address
  /-- How many units it has. -/
  units : Word
  deriving DecidableEq, Repr

/-- A source of memory with states in `G` and errors in `E`. -/
class Grower (G : Type) (E : outParam Type) where
  /-- Hands over at least the given number of units, or says why it cannot. -/
  grow : Word → EStateM Fault G (Except E Region)

end NextFit
