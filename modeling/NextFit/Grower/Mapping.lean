/-
This file says what the system does when memory is mapped, and how large its pages are. It
also holds a system whose answers are laid down beforehand: first a list of answers, and
after it a rule that places one mapping beside the other in an arena of pages.
-/

import NextFit.Grower.Basic

namespace NextFit

/-! ### Systems -/

/-- An error number of the system. -/
structure Errno where
  /-- The number. -/
  code : Int32
  deriving DecidableEq, Repr

/-- There is not enough memory. -/
def Errno.noMemory : Errno :=
  ⟨12⟩

/-- The size of the pages of a system. -/
structure PageSize where
  /-- One page in bytes. -/
  bytes : Word
  /-- A page is not empty. -/
  nonzero : bytes ≠ 0
  /-- It consists of whole units. -/
  whole : 16 ∣ bytes.toNat
  deriving DecidableEq

/-- How the system answers when memory is to be mapped. -/
inductive MapAnswer where
  /-- The mapping begins at the address, which may be null. -/
  | placed (start : Address)
  /-- There is no mapping. -/
  | failed (errno : Errno)
  deriving DecidableEq, Repr

/-- A system with states in `S` that maps memory. -/
class Mapper (S : Type) where
  /-- How large its pages are. -/
  pageSize : PageSize
  /-- Maps the given number of bytes. -/
  map : S → Word → MapAnswer × S

/-! ### An arena -/

/-- The pages in which mappings are placed. -/
structure Arena where
  /-- Where the first page begins. -/
  base : Address
  /-- The number of pages. -/
  pages : Nat
  deriving DecidableEq, Repr

/-- The size of the pages of an arena. -/
def Arena.pageSize : PageSize :=
  ⟨4096, by decide, by decide⟩

/-- The address of a page. -/
def Arena.page (arena : Arena) (number : Nat) : Address :=
  arena.base + Arena.pageSize.bytes * number.toUInt64

/-- Places a mapping of some pages from the given page on, if the arena has these pages. -/
def Arena.place? (arena : Arena) (number pages : Nat) : Option Address :=
  if number + pages ≤ arena.pages then some (arena.page number) else none

/-! ### A system with a plan -/

/-- One answer that is laid down beforehand. -/
inductive PlannedAnswer where
  /-- The mapping begins at a page of the arena, if it fits there. -/
  | page (number : Nat)
  /-- The mapping begins at the null address. -/
  | null
  /-- The mapping fails. -/
  | failure (errno : Errno)
  deriving DecidableEq, Repr

/-- Where mappings go once the planned answers are used up. -/
inductive Placement where
  /-- Each one above the last, leaving out as many pages in between. -/
  | upward (gap : Nat)
  /-- Each one right below the last. -/
  | downward
  /-- Nowhere: every mapping fails. -/
  | nowhere
  deriving DecidableEq, Repr

/-- A system that answers by a plan and writes down the lengths it was asked for. -/
structure PlannedMapper where
  /-- Where mappings are placed. -/
  arena : Arena
  /-- The answers that are laid down. -/
  answers : List PlannedAnswer
  /-- What happens after them. -/
  placement : Placement
  /-- The page at which the next mapping begins, or ends if mappings go downward. -/
  position : Nat
  /-- The lengths that were asked for, the first one first. -/
  calls : List Word := []
  deriving DecidableEq, Repr

namespace PlannedMapper

/-- A system that has not been asked for anything. -/
def create (arena : Arena) (answers : List PlannedAnswer) (placement : Placement) :
    PlannedMapper :=
  { arena, answers, placement
    position := match placement with
      | .downward => arena.pages
      | _ => 0 }

/-- A mapping that begins at an address, or fails for want of memory. -/
def answerOf : Option Address → MapAnswer
  | some start => .placed start
  | none => .failed .noMemory

/-- Answers as the plan says for the given number of pages. -/
def planned (mapper : PlannedMapper) (pages : Nat) : PlannedAnswer → MapAnswer
  | .page number => answerOf (mapper.arena.place? number pages)
  | .null => .placed 0
  | .failure errno => .failed errno

/-- Places the given number of pages by the rule. What does not fit moves nothing. -/
def placed (mapper : PlannedMapper) (pages : Nat) : MapAnswer × PlannedMapper :=
  match mapper.placement with
  | .upward gap =>
    match mapper.arena.place? mapper.position pages with
    | some start => (.placed start, { mapper with position := mapper.position + pages + gap })
    | none => (.failed .noMemory, mapper)
  | .downward =>
    if pages ≤ mapper.position then
      (.placed (mapper.arena.page (mapper.position - pages)),
        { mapper with position := mapper.position - pages })
    else (.failed .noMemory, mapper)
  | .nowhere => (.failed .noMemory, mapper)

/-- Maps memory by the plan: the next planned answer, or the rule when there is none left. -/
def map (mapper : PlannedMapper) (length : Word) : MapAnswer × PlannedMapper :=
  let mapper := { mapper with calls := mapper.calls ++ [length] }
  let pages := length.toNat / Arena.pageSize.bytes.toNat
  match mapper.answers with
  | [] => mapper.placed pages
  | answer :: answers => (mapper.planned pages answer, { mapper with answers })

instance : Mapper PlannedMapper where
  pageSize := Arena.pageSize
  map := map

end PlannedMapper

end NextFit
