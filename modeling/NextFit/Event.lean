/-
This file holds the events that a heap records, and how each is written in a log. The
events that hand out, free or shrink a block are the audit trail of the heap: replayed
in order they say which payloads are live.
-/

import NextFit.Text.Hex

namespace NextFit

/-- How much an event matters. -/
inductive Level where
  /-- Worth a line when the heap is watched. -/
  | debug
  /-- Worth a line when every call is watched. -/
  | trace
  deriving DecidableEq, Repr

/-- The name of a level. -/
def Level.text : Level → String
  | .debug => "DEBUG"
  | .trace => "TRACE"

/-- Something that happened to a heap whose grower has errors in `E`. -/
inductive Event (E : Type) where
  /-- The grower handed over a region. -/
  | grew (got : Word) (start : Address) (requested : Word)
  /-- The grower refused. -/
  | growthFailed (requested : Word) (error : E)
  /-- Nothing was asked for. -/
  | refusedEmpty
  /-- The block for a request would be too large for a word. -/
  | tooLarge (size : Word)
  /-- The block for an aligned request would be too large for a word. -/
  | tooLargeAligned (size alignment : Word)
  /-- A block was handed out. -/
  | allocated (size units : Word) (payload : Address) (alignment : Option Word)
  /-- A block is about to be freed. -/
  | freeing (payload : Address) (units : Word)
  /-- A block was cut down to its first units. -/
  | shrank (header : Address) (units : Word)
  deriving DecidableEq, Repr

namespace Event

variable {E : Type}

/-- How much the event matters. -/
def level : Event E → Level
  | grew .. | growthFailed .. | tooLarge .. | tooLargeAligned .. => .debug
  | refusedEmpty | allocated .. | freeing .. | shrank .. => .trace

/-- The text of the event, given the text of the errors of the grower. -/
def text (errorText : E → String) : Event E → String
  | grew got start requested =>
    "Grew heap by " ++ toString got ++ " units at " ++ Address.text start ++
      " (" ++ toString requested ++ " requested)"
  | growthFailed requested error =>
    "Failed to grow heap by " ++ toString requested ++ " units: " ++ errorText error
  | refusedEmpty => "Refusing to allocate 0 bytes"
  | tooLarge size => "Allocation of " ++ toString size ++ " bytes is too large"
  | tooLargeAligned size alignment =>
    "Allocation of " ++ toString size ++ " bytes aligned to " ++ toString alignment ++
      " is too large"
  | allocated size units payload alignment =>
    "Allocated " ++ toString size ++ " bytes (" ++ toString units ++ " units) at " ++
      Address.text payload ++
      match alignment with
      | none => ""
      | some alignment => ", aligned to " ++ toString alignment
  | freeing payload units =>
    "Freeing " ++ Address.text payload ++ ": " ++ toString units ++ " units"
  | shrank header units =>
    "Shrank " ++ Address.text header ++ " to " ++ toString units ++ " units"

/-- The line of the event in a log. -/
def line (errorText : E → String) (event : Event E) : String :=
  event.level.text ++ " " ++ event.text errorText

end Event

end NextFit
