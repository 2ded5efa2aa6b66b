/-
This file holds the grower that maps fresh pages. Each growth is one mapping of whole
pages, at least as many as the heap was set up with, and all of it is handed over.
-/

import NextFit.Grower.Mapping
import NextFit.Units
import NextFit.Text.Quoted
import NextFit.Text.Record

namespace NextFit

/-- A grower that maps pages from a system with states in `S`. -/
structure PageHeap (S : Type) where
  /-- The fewest pages of a growth. -/
  minPages : Word
  /-- The pages mapped so far. -/
  pages : Word := 0
  /-- The growths that succeeded. -/
  growths : Word := 0
  /-- The system that is asked. -/
  system : S
  deriving Repr

/-- Why pages could not be mapped. -/
inductive MapError where
  /-- The mapping failed. -/
  | refused (errno : Errno)
  /-- The mapping begins at the null address. -/
  | nullMapping
  /-- The length of the mapping does not fit in a word. -/
  | overflow
  deriving DecidableEq, Repr

/-- The message of the error, given what the system says of an error number. -/
def MapError.message (description : Errno → String) : MapError → String
  | .refused errno => "mmap failed: " ++ description errno
  | .nullMapping => "mmap returned a null mapping"
  | .overflow => "requested size overflows"

/-- The error as a record, given what the system says of an error number. -/
def MapError.text (description : Errno → String) : MapError → String
  | .refused errno =>
    let description := "Some(" ++ quoted (description errno) ++ ")"
    "Errno(" ++
      recordText "Errno" [("code", toString errno.code), ("description", description)] ++ ")"
  | .nullMapping => "NullMapping"
  | .overflow => "Overflow"

namespace PageHeap

variable {S : Type}

/-- A heap that maps at least the given number of pages at a time, which must not be zero. -/
def create (minPages : Word) (system : S) : Except Fault (PageHeap S) :=
  if minPages = 0 then .error .zeroPages else .ok { minPages, system }

/-- The length in bytes of the mapping for a number of units: the least number of whole pages
that holds the units and is not below the fewest pages of a growth. There is none if it
does not fit in a word. -/
def mapLength (page : PageSize) (minPages units : Word) : Option Word := do
  let bytes ← times? units unitBytes
  let least ← times? minPages page.bytes
  roundUp? (max bytes least) page.bytes

/-- Asks the system to map the given number of bytes. -/
def askSystem [Mapper S] (length : Word) : EStateM Fault (PageHeap S) MapAnswer :=
  modifyGet fun heap =>
    let (answer, system) := Mapper.map heap.system length
    (answer, { heap with system })

/-- Counts a growth of the given number of pages. -/
def count (pages : Word) : EStateM Fault (PageHeap S) Unit := do
  let pages ← ofExcept (plus (← get).pages pages)
  modify ({ · with pages })
  let growths ← ofExcept (plus (← get).growths 1)
  modify ({ · with growths })

/-- Maps enough pages for the given number of units and hands over all of them. -/
def grow [Mapper S] (units : Word) : EStateM Fault (PageHeap S) (Except MapError Region) := do
  let page := Mapper.pageSize S
  let some length := mapLength page (← get).minPages units
    | return .error .overflow
  match ← askSystem length with
  | .failed errno => return .error (.refused errno)
  | .placed start =>
    if start = 0 then
      return .error .nullMapping
    else
      count (length / page.bytes)
      return .ok { start, units := length / unitBytes }

instance [Mapper S] : Grower (PageHeap S) MapError where
  grow := grow

/-- The heap as a record, without its system. -/
def text (heap : PageHeap S) : String :=
  recordText "MmapHeap"
    [("min_pages", toString heap.minPages), ("pages", toString heap.pages),
      ("growths", toString heap.growths)]

end PageHeap

end NextFit
