/-
This file follows a free list through any history of calls. The units on the list are those
that were added and not taken since, and they alone determine what the list shows: its
blocks are the maximal runs of these units, in address order from the sentinel on. So no
trace is left of the order in which the units came and went, nor of the rover.
-/

import NextFit.Proofs.FreeList.Insert
import NextFit.Proofs.FreeList.Survey
import NextFit.Proofs.FreeList.Take
import NextFit.Proofs.Steps

namespace NextFit

namespace FreeList

/-! ### Calls -/

/-- A call on a free list. -/
inductive Call
  /-- Adds fresh memory. -/
  | extend (start : Address) (units : Word)
  /-- Adds the block whose header stands at an address. -/
  | insert (header : Address)
  /-- Takes some units. -/
  | take (wanted : Word)

/-- The block that a call adds. -/
def Call.added (memory : Memory) : Call → Option FreeBlock
  | extend start units => some { header := start, units }
  | insert header => some { header, units := memory.size header }
  | take _ => none

/-- Makes a call. The outcome is the block that it took and the list. -/
def Call.make (list : FreeList) : Call → Surgery (Option FreeBlock × FreeList)
  | extend start units => do return (none, ← list.extend start units)
  | insert header => do return (none, ← list.insert header)
  | take wanted => do
    let (found, after) ← list.take wanted
    return (found.map fun header => { header, units := wanted }, after)

/-- What a caller must keep to: a block that is added lies in memory, is not empty, and has no
unit in common with the sentinel and the blocks that are on the list, and never are no units
asked for. -/
structure Call.Legal (sentinel : Address) (memory : Memory) (blocks : List FreeBlock)
    (call : Call) : Prop where
  sits : ∀ block ∈ call.added memory, block.Sits sentinel
  apart : ∀ block ∈ call.added memory, ∀ free ∈ blocks, Disjoint block.stretch free.stretch
  nonzero : call ≠ take 0

/-- The histories of a list with the given sentinel, with the units that were added and not taken
since. Between the calls, memory off the list may change in any way. -/
inductive Reaches (sentinel : Address) : FreeList → Memory → Finset Nat → Prop
  | create {after : Memory} {list : FreeList} (memory : Memory) : Lies sentinel 1 →
      FreeList.create sentinel memory = .ok list after → Reaches sentinel list after ∅
  | call {list after : FreeList} {memory memoryAfter : Memory} {units : Finset Nat}
      {blocks : List FreeBlock} {taken : Option FreeBlock} (call : Call) :
      Reaches sentinel list memory units → list.blocks memory = .ok blocks →
      call.Legal sentinel memory blocks →
      call.make list memory = .ok (taken, after) memoryAfter →
      Reaches sentinel after memoryAfter
        ((freeUnits (call.added memory).toList ∪ units) \ freeUnits taken.toList)
  | elsewhere {list : FreeList} {memory other : Memory} {units : Finset Nat} :
      Reaches sentinel list memory units →
      (∀ address, unitOf address = unitOf sentinel ∨ unitOf address ∈ units →
        other.header address = memory.header address) →
      Reaches sentinel list other units

/-! ### What a call does -/

variable {list : FreeList} {memory : Memory} {blocks : List FreeBlock} {call : Call}
  {sentinel : Address} {units : Finset Nat}

/-- The outcome of a call on a list that held some blocks: the block that was added is on the list,
and the block that was taken, which was on it, is not. -/
structure Made (list : FreeList) (blocks : List FreeBlock) (added taken : Option FreeBlock)
    (after : FreeList) (memoryAfter : Memory) (blocksAfter : List FreeBlock) : Prop where
  holds : after.Holds memoryAfter blocksAfter
  sentinel_eq : after.sentinel = list.sentinel
  units : freeUnits blocksAfter =
    (freeUnits added.toList ∪ freeUnits blocks) \ freeUnits taken.toList
  inside : freeUnits taken.toList ⊆ freeUnits blocks

theorem freeUnits_some (block : FreeBlock) : freeUnits (some block).toList = block.stretch :=
  Finset.union_empty _

theorem Inserted.made {block : FreeBlock} {after : FreeList} {memoryAfter : Memory}
    {blocksAfter : List FreeBlock}
    (inserted : Inserted list memory blocks block after memoryAfter blocksAfter) :
    Made list blocks (some block) none after memoryAfter blocksAfter := by
  refine ⟨inserted.holds, inserted.sentinel_eq, ?_, Finset.empty_subset _⟩
  rw [inserted.units, freeUnits_some]
  exact Finset.sdiff_empty.symm

theorem Taken.made {wanted : Word} {header : Address} {after : FreeList} {memoryAfter : Memory}
    {blocksAfter : List FreeBlock} (holds : list.Holds memory blocks) (nonzero : wanted ≠ 0)
    (taken : Taken list memory blocks wanted header after memoryAfter blocksAfter) :
    Made list blocks none (some { header, units := wanted }) after memoryAfter blocksAfter := by
  refine ⟨taken.holds, taken.sentinel_eq, ?_, ?_⟩
  · rw [taken.units, freeUnits_some]
    exact congrArg (· \ stretch header wanted) (Finset.empty_union _).symm
  · rw [freeUnits_some]
    exact (taken.lies_and_subset holds nonzero).2

theorem Holds.made_nothing (holds : list.Holds memory blocks) :
    Made list blocks none none list memory blocks :=
  ⟨holds, rfl, (Finset.sdiff_empty.trans (Finset.empty_union _)).symm, Finset.empty_subset _⟩

/-- Every legal call on a list that holds some blocks succeeds, and the list holds some blocks
again. -/
theorem Holds.make_spec (holds : list.Holds memory blocks)
    (legal : call.Legal list.sentinel memory blocks) :
    ∃ taken after memoryAfter blocksAfter,
      call.make list memory = .ok (taken, after) memoryAfter ∧
      Made list blocks (call.added memory) taken after memoryAfter blocksAfter := by
  obtain ⟨sits, apart, nonzero⟩ := legal
  unfold Call.make
  cases call with
  | extend start units =>
    have disjoint := disjoint_freeUnits.mpr (apart _ rfl)
    obtain ⟨after, memoryAfter, blocksAfter, result, inserted⟩ :=
      holds.extend_spec (sits _ rfl) disjoint
    refine ⟨none, after, memoryAfter, blocksAfter, ?_, inserted.made⟩
    exact (bind_of_ok result).trans rfl
  | insert header =>
    have disjoint := disjoint_freeUnits.mpr (apart _ rfl)
    obtain ⟨after, memoryAfter, blocksAfter, result, inserted⟩ :=
      holds.insert_spec (sits _ rfl) disjoint rfl
    refine ⟨none, after, memoryAfter, blocksAfter, ?_, inserted.made⟩
    exact (bind_of_ok result).trans rfl
  | take wanted =>
    have wantedNonzero : wanted ≠ 0 := fun zero => nonzero (zero ▸ rfl)
    rcases large_or_small blocks wanted with large | small
    · obtain ⟨header, after, memoryAfter, blocksAfter, result, taken⟩ :=
        holds.take_some wantedNonzero large
      refine ⟨_, after, memoryAfter, blocksAfter, ?_, taken.made holds wantedNonzero⟩
      exact (bind_of_ok result).trans rfl
    · refine ⟨none, list, memory, blocks, ?_, holds.made_nothing⟩
      exact (bind_of_ok (holds.take_none wantedNonzero small)).trans rfl

/-- After any history the list holds blocks of exactly the units that were added and not taken
since. -/
theorem Reaches.exists_holds (reached : Reaches sentinel list memory units) :
    ∃ blocks, list.Holds memory blocks ∧ list.sentinel = sentinel ∧ freeUnits blocks = units := by
  induction reached with
  | create memory lies created =>
    obtain ⟨list, after, result, same, holds, -⟩ := holds_create lies memory
    rw [created] at result
    injection result with sameList sameMemory
    subst sameList sameMemory
    exact ⟨[], holds, same, rfl⟩
  | call call reached listed legal made inductionHypothesis =>
    obtain ⟨blocks, holds, rfl, rfl⟩ := inductionHypothesis
    rw [holds.blocks_eq] at listed
    cases listed
    obtain ⟨taken, after, memoryAfter, blocksAfter, result, holdsAfter, same, sum, -⟩ :=
      holds.make_spec legal
    rw [made] at result
    cases result
    exact ⟨blocksAfter, holdsAfter, same, sum⟩
  | elsewhere reached same inductionHypothesis =>
    obtain ⟨blocks, holds, rfl, rfl⟩ := inductionHypothesis
    exact ⟨blocks, holds.congr same, rfl, rfl⟩

/-! ### What the list shows -/

/-- What a list shows of some units: the maximal runs of them, those above the sentinel first and
then those below it, in address order. -/
structure Shows (list : FreeList) (memory : Memory) (sentinel : Address) (units : Finset Nat)
    (above below : List FreeBlock) : Prop where
  blocks_eq : list.blocks memory = .ok (above ++ below)
  length_eq : list.length memory = .ok (above ++ below).length
  survey_eq : list.survey memory = .ok
    { defects := { overlaps := 0, adjacents := 0, descents := 1 }
      totals := { length := (above ++ below).length, units := units.card.toUInt64 } }
  units_eq : freeUnits (above ++ below) = units
  runs : ∀ block, block ∈ above ++ below ↔ block.IsRun units
  aboveSentinel : ∀ block ∈ above, sentinel < block.header
  aboveOrder : (above.map FreeBlock.header).Pairwise (· < ·)
  belowSentinel : ∀ block ∈ below, block.header < sentinel
  belowOrder : (below.map FreeBlock.header).Pairwise (· < ·)
  rover : list.rover ∈ sentinel :: (above ++ below).map FreeBlock.header
  sentinel_eq : list.sentinel = sentinel
  sentinelSize : memory.size sentinel = 0
  sentinelApart : unitOf sentinel ∉ units

theorem Holds.exists_shows (holds : list.Holds memory blocks) :
    ∃ above below, list.Shows memory list.sentinel (freeUnits blocks) above below := by
  obtain ⟨above, below, rfl, aboveSentinel, belowSentinel, aboveOrder, belowOrder⟩ :=
    holds.canonical.exists_halves
  exact ⟨above, below,
    { blocks_eq := holds.blocks_eq
      length_eq := holds.length_eq
      survey_eq := holds.survey_eq
      units_eq := rfl
      runs := fun _ => holds.canonical.mem_iff_isRun
      aboveSentinel, aboveOrder, belowSentinel, belowOrder
      rover := holds.rover
      sentinel_eq := rfl
      sentinelSize := holds.sentinelSize
      sentinelApart := holds.canonical.sentinel_notMem }⟩

/-- After any history the list shows the maximal runs of the units that were added and not taken
since. Every legal call succeeds and takes none but these units, and any two histories that
leave the same units leave the same blocks. -/
theorem Reaches.shows_runs (reached : Reaches sentinel list memory units) :
    (∃ above below, list.Shows memory sentinel units above below) ∧
      (∀ (listed : List FreeBlock) (call : Call), list.blocks memory = .ok listed →
        call.Legal sentinel memory listed →
        ∃ taken after memoryAfter, call.make list memory = .ok (taken, after) memoryAfter ∧
          freeUnits taken.toList ⊆ units) ∧
      ∀ other otherMemory, Reaches sentinel other otherMemory units →
        other.blocks otherMemory = list.blocks memory ∧
          other.length otherMemory = list.length memory ∧
          other.survey otherMemory = list.survey memory := by
  obtain ⟨blocks, holds, rfl, rfl⟩ := reached.exists_holds
  refine ⟨holds.exists_shows, fun listed call here legal => ?_,
    fun other otherMemory otherReached => ?_⟩
  · rw [holds.blocks_eq] at here
    cases here
    obtain ⟨taken, after, memoryAfter, _, result, made⟩ := holds.make_spec legal
    exact ⟨taken, after, memoryAfter, result, made.inside⟩
  · obtain ⟨otherBlocks, otherHolds, sameSentinel, sameUnits⟩ := otherReached.exists_holds
    have otherCanonical := otherHolds.canonical
    rw [sameSentinel] at otherCanonical
    obtain rfl := otherCanonical.eq_of_freeUnits_eq holds.canonical sameUnits
    exact ⟨otherHolds.blocks_eq.trans holds.blocks_eq.symm,
      otherHolds.length_eq.trans holds.length_eq.symm,
      otherHolds.survey_eq.trans holds.survey_eq.symm⟩

/-- A history in which four units above the sentinel are added and the upper two of them are taken
and put back. The free units are the four again. -/
theorem shows_runs_after_return :
    ∃ list memory, Reaches 4096 list memory (Finset.Ico 257 261) ∧
      ∃ above below, list.Shows memory 4096 (Finset.Ico 257 261) above below := by
  have created : Reaches 4096 _ _ ∅ := .create {} ⟨by decide, by decide, by decide⟩ rfl
  have extended := Reaches.call (.extend 4112 4) created rfl
    ⟨by rintro _ ⟨⟩; exact ⟨⟨by decide, by decide, by decide⟩, by decide, by decide⟩,
      by rintro _ ⟨⟩; exact List.forall_mem_nil _, nofun⟩ rfl
  have taken := Reaches.call (.take 2) extended rfl ⟨nofun, nofun, by simp⟩ rfl
  have returned := Reaches.call (.insert 4144) taken rfl
    ⟨by rintro _ ⟨⟩; exact ⟨⟨by decide, by decide, by decide⟩, by decide, by decide⟩,
      by rintro _ ⟨⟩; exact List.forall_mem_singleton.mpr (by decide), nofun⟩ rfl
  obtain ⟨list, memory, units, rfl, reached⟩ : ∃ list memory units,
      units = Finset.Ico 257 261 ∧ Reaches 4096 list memory units := ⟨_, _, _, by decide, returned⟩
  exact ⟨list, memory, reached, reached.shows_runs.1⟩
end FreeList

end NextFit
