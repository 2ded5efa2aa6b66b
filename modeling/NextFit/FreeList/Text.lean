/-
This file writes free lists, their blocks and what a survey of them found.
-/

import NextFit.FreeList.Survey
import NextFit.Text.Record

namespace NextFit

/-- The text of the defects of a list. -/
def Defects.text (defects : Defects) : String :=
  recordText "Validity"
    [("overlaps", toString defects.overlaps), ("adjacents", toString defects.adjacents),
      ("descents", toString defects.descents)]

/-- The text of the totals of a list. -/
def Totals.text (totals : Totals) : String :=
  recordText "Stats" [("length", toString totals.length), ("units", toString totals.units)]

/-- The text of a survey: the defects and then the totals. -/
def Survey.text (survey : Survey) : String :=
  survey.defects.text ++ " " ++ survey.totals.text

/-- The text of a free block. -/
def FreeBlock.text (block : FreeBlock) : Except Fault String := do
  let bytes ← block.bytes
  return "FreeBlock(" ++ Address.text block.header ++ ", " ++ toString block.units ++
    " units, " ++ toString bytes ++ " bytes)"

/-- The text of a free list: the sentinel and then every block in list order. -/
def FreeList.text (list : FreeList) (memory : Memory) : Except Fault String := do
  let blocks ← (← list.blocks memory).mapM FreeBlock.text
  return "FreeList(" ++
    ", ".intercalate (("sentinel " ++ Address.text list.sentinel) :: blocks) ++ ")"

end NextFit
