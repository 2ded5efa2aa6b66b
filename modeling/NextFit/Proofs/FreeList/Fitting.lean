/-
This file says exactly which block a search takes, wherever the rover stands. It is the first
one that is large enough on the way round the circle from the node after the rover, the
rover's own block coming last. The block leaves the circle or keeps its place with fewer
units, and but for the link or the sizes that this takes no header changes.
-/

import NextFit.Proofs.FreeList.History

namespace NextFit

namespace FreeList

variable {list : FreeList} {memory : Memory} {blocks lower upper : List FreeBlock}
  {block : FreeBlock} {sentinel rover : Address} {units : Finset Nat} {wanted : Word}

/-- A list holds the same blocks wherever on the circle its rover stands. -/
theorem Holds.roving (holds : list.Holds memory blocks)
    (onCircle : rover ∈ list.sentinel :: blocks.map FreeBlock.header) :
    Holds { list with rover } memory blocks :=
  { holds with rover := onCircle }

/-! ### The way round the circle -/

/-- The tour from a rover follows the links once round the circle and ends at the rover. -/
structure Tours (memory : Memory) (circle : List Address) (rover : Address) : Prop where
  leads : Leads memory (memory.next rover) (tour rover circle) (memory.next rover)
  last : (tour rover circle).getLast? = some rover
  perm : (tour rover circle).Perm circle
  nodup : (tour rover circle).Nodup

theorem Holds.tours (holds : list.Holds memory blocks) :
    Tours memory (list.sentinel :: blocks.map FreeBlock.header) list.rover := by
  obtain ⟨route, whole, leads, -, -⟩ := holds.exists_tour
  have perm : (tour list.rover (list.sentinel :: blocks.map FreeBlock.header)).Perm
      (list.sentinel :: blocks.map FreeBlock.header) := List.rotate_perm _ _
  refine ⟨?_, ?_, perm, perm.nodup_iff.mpr holds.canonical.nodup⟩
  · rw [whole, leads_split]
    exact ⟨leads, rfl⟩
  · rw [whole, List.getLast?_concat]

/-! ### What is taken -/

/-- What is left of a block on the circle when its top units are taken. -/
def remainder (block : FreeBlock) (wanted : Word) : List FreeBlock :=
  if block.units = wanted then [] else [{ block with units := block.units - wanted }]

/-- The outcome of taking units off one of the blocks of a list. -/
structure TakesFrom (list : FreeList) (memory : Memory) (lower : List FreeBlock)
    (block : FreeBlock) (upper : List FreeBlock) (wanted : Word) (header : Address)
    (after : FreeList) (memoryAfter : Memory) : Prop where
  /-- The other blocks keep their sizes and their order, and the block its place. -/
  blocks_eq : after.blocks memoryAfter = .ok (lower ++ remainder block wanted ++ upper)
  sentinel_eq : after.sentinel = list.sentinel
  /-- The rover is the node before the block. -/
  next_rover : memory.next after.rover = block.header
  /-- It was on the list, and it stays there. -/
  rover_mem : after.rover ∈ list.sentinel :: (lower ++ block :: upper).map FreeBlock.header
  rover_stays : after.rover ∈
    list.sentinel :: (lower ++ remainder block wanted ++ upper).map FreeBlock.header
  /-- The units that are taken are the top of the block. -/
  top : header.toNat + 16 * wanted.toNat = block.header.toNat + 16 * block.units.toNat
  size : memoryAfter.size header = wanted
  /-- If they are all of it, no header changes but for the link of the node before it. -/
  whole : block.units = wanted → header = block.header ∧ ∀ address, memoryAfter.header address =
    if unitOf after.rover = unitOf address then
      { memory.header address with next := memory.next block.header }
    else memory.header address
  /-- Otherwise some are left, and no header changes but for the two sizes. -/
  part : block.units ≠ wanted → wanted < block.units ∧ ∀ address, memoryAfter.header address =
    if unitOf header = unitOf address then { memory.header address with size := wanted }
    else if unitOf block.header = unitOf address then
      { memory.header address with size := block.units - wanted }
    else memory.header address

theorem Holds.takesWhole (holds : list.Holds memory (lower ++ block :: upper)) :
    TakesFrom list memory lower block upper block.units block.header
      { list with rover := (lower.map FreeBlock.header).getLastD list.sentinel }
      (memory.setNext ((lower.map FreeBlock.header).getLastD list.sentinel)
        (memory.next block.header)) := by
  have taken := holds.taken_whole
  have nothing : remainder block block.units = [] := if_pos rfl
  refine ⟨?_, rfl, holds.stem_below.1.next_last, last_mem _ _, ?_, rfl, taken.size,
    fun _ => ⟨rfl, ?_⟩, fun other => absurd rfl other⟩
  · rw [nothing, List.append_nil]
    exact taken.holds.blocks_eq
  · rw [List.append_assoc]
    exact last_mem _ _
  · exact fun address => memory.header_setNext _ address _

theorem Holds.takesPart (holds : list.Holds memory (lower ++ block :: upper))
    (nonzero : wanted ≠ 0) (less : wanted < block.units) :
    TakesFrom list memory lower block upper wanted (block.header.above (block.units - wanted))
      { list with rover := (lower.map FreeBlock.header).getLastD list.sentinel }
      ((memory.setSize block.header (block.units - wanted)).setSize
        (block.header.above (block.units - wanted)) wanted) := by
  have taken := holds.taken_top nonzero less
  have sits := holds.canonical.sits block (by simp)
  have fewer := UInt64.lt_iff_toNat_lt.mp less
  have positive := toNat_pos_of_ne_zero nonzero
  have difference := UInt64.toNat_sub_of_le _ _ (UInt64.le_of_lt less)
  have unequal : block.units ≠ wanted := fun same => UInt64.lt_irrefl _ (same ▸ less)
  have rest : remainder block wanted = [{ block with units := block.units - wanted }] :=
    if_neg unequal
  refine ⟨?_, rfl, holds.stem_below.1.next_last, last_mem _ _, ?_, ?_, taken.size,
    fun same => absurd same unequal, fun _ => ⟨less, fun address => ?_⟩⟩
  · rw [rest, List.append_assoc, List.singleton_append]
    exact taken.holds.blocks_eq
  · rw [List.append_assoc]
    exact last_mem _ _
  · have within := sits.lies.within
    rw [toNat_above, difference]
    omega
  · rw [Memory.header_setSize, Memory.header_setSize]
    by_cases upperPart : unitOf (block.header.above (block.units - wanted)) = unitOf address
    · have inside : (block.units - wanted).toNat < block.units.toNat := by omega
      have place := sits.lies.unitOf_above inside
      have apart : unitOf block.header ≠ unitOf address := by omega
      rw [if_pos upperPart, if_pos upperPart, if_neg apart]
    · rw [if_neg upperPart, if_neg upperPart]

/-- If some free block is large enough, the units come off the first such block on the tour. -/
theorem Holds.takes_first (holds : list.Holds memory blocks) (nonzero : wanted ≠ 0)
    (large : ∃ block ∈ blocks, wanted ≤ block.units) :
    ∃ lower block upper header after memoryAfter,
      blocks = lower ++ block :: upper ∧ wanted ≤ block.units ∧
      Passes memory (list.sentinel :: blocks.map FreeBlock.header) list.rover wanted after.rover
        block.header ∧
      list.take wanted memory = .ok (some header, after) memoryAfter ∧
      TakesFrom list memory lower block upper wanted header after memoryAfter := by
  obtain ⟨lower, block, upper, rfl, fits, passes⟩ := holds.exists_passes nonzero large
  have result := take_of_fit nonzero (holds.findFit_of_passes passes)
  rw [holds.cut_eq] at result
  by_cases exactly : block.units = wanted
  · subst exactly
    rw [if_pos rfl] at result
    exact ⟨_, _, _, _, _, _, rfl, fits, passes, result, holds.takesWhole⟩
  · rw [if_neg exactly] at result
    have less := UInt64.lt_of_le_of_ne fits fun same => exactly same.symm
    exact ⟨_, _, _, _, _, _, rfl, fits, passes, result, holds.takesPart nonzero less⟩

/-! ### After any history -/

/-- After any history and with the rover anywhere on the circle, a search finds nothing just if all
free blocks are too small; it has then looked at every node of the circle once, and nothing
has changed. Otherwise the units come off the first block on the tour from the rover that is
large enough, and the search has looked at no node but those on the way there. -/
theorem Reaches.takes_next_fit (reached : Reaches sentinel list memory units)
    (listed : list.blocks memory = .ok blocks)
    (onCircle : rover ∈ sentinel :: blocks.map FreeBlock.header) (nonzero : wanted ≠ 0) :
    Tours memory (sentinel :: blocks.map FreeBlock.header) rover ∧
    ((∃ after memoryAfter,
        take { list with rover } wanted memory = .ok (none, after) memoryAfter) ↔
      ∀ block ∈ blocks, block.units < wanted) ∧
    ((∀ block ∈ blocks, block.units < wanted) →
      take { list with rover } wanted memory = .ok (none, { list with rover }) memory ∧
      ∀ fuel, fitAfter memory rover wanted fuel rover =
        if fuel ≤ blocks.length then .error .endlessWalk else .ok none) ∧
    ((∃ block ∈ blocks, wanted ≤ block.units) →
      ∃ lower block upper header after memoryAfter,
        blocks = lower ++ block :: upper ∧ wanted ≤ block.units ∧
        Passes memory (sentinel :: blocks.map FreeBlock.header) rover wanted after.rover
          block.header ∧
        take { list with rover } wanted memory = .ok (some header, after) memoryAfter ∧
        TakesFrom { list with rover } memory lower block upper wanted header after
          memoryAfter) := by
  obtain ⟨blocks, holdsAnywhere, rfl, rfl⟩ := reached.exists_holds
  rw [holdsAnywhere.blocks_eq] at listed
  cases listed
  have holds := holdsAnywhere.roving onCircle
  refine ⟨holds.tours, ⟨?_, fun small => ⟨_, _, holds.take_none nonzero small⟩⟩,
    fun small => ⟨holds.take_none nonzero small, holds.fitAfter_none nonzero small⟩,
    holds.takes_first nonzero⟩
  rintro ⟨after, memoryAfter, result⟩
  refine (large_or_small blocks wanted).resolve_left fun large => ?_
  obtain ⟨-, -, -, header, _, _, -, -, -, taken, -⟩ := holds.takes_first nonzero large
  rw [taken] at result
  cases result

/-- A list of two blocks whose rover stands at the upper one. Two units come off the top of the
lower one, which is the first on the tour that is large enough, and no block has five. -/
theorem takes_next_fit_round_circle :
    ∃ list memory units, Reaches 4096 list memory units ∧
      list.blocks memory =
        .ok [{ header := 4112, units := 4 }, { header := 4208, units := 3 }] ∧
      (∃ lower block upper after memoryAfter,
        take { list with rover := 4208 } 2 memory = .ok (some 4144, after) memoryAfter ∧
        TakesFrom { list with rover := 4208 } memory lower block upper 2 4144 after memoryAfter) ∧
      take { list with rover := 4208 } 5 memory =
        .ok (none, { list with rover := 4208 }) memory := by
  have created : Reaches 4096 _ _ ∅ := .create {} ⟨by decide, by decide, by decide⟩ rfl
  have extended := Reaches.call (.extend 4112 4) created rfl
    ⟨by rintro _ ⟨⟩; exact ⟨⟨by decide, by decide, by decide⟩, by decide, by decide⟩,
      by rintro _ ⟨⟩; exact List.forall_mem_nil _, nofun⟩ rfl
  have extendedAgain := Reaches.call (.extend 4208 3) extended rfl
    ⟨by rintro _ ⟨⟩; exact ⟨⟨by decide, by decide, by decide⟩, by decide, by decide⟩,
      by rintro _ ⟨⟩; exact List.forall_mem_singleton.mpr (by decide), nofun⟩ rfl
  obtain ⟨list, memory, units, after, memoryAfter, listed, taken, reached⟩ :
      ∃ list memory units after memoryAfter,
        list.blocks memory =
          .ok [{ header := 4112, units := 4 }, { header := 4208, units := 3 }] ∧
        take { list with rover := 4208 } 2 memory = .ok (some 4144, after) memoryAfter ∧
        Reaches 4096 list memory units := ⟨_, _, _, _, _, rfl, rfl, extendedAgain⟩
  have onCircle : (4208 : Address) ∈ (4096 : Address) ::
      [FreeBlock.mk 4112 4, FreeBlock.mk 4208 3].map FreeBlock.header := by decide
  obtain ⟨-, -, -, found⟩ :=
    reached.takes_next_fit listed onCircle (show (2 : Word) ≠ 0 by decide)
  obtain ⟨-, -, nothing, -⟩ :=
    reached.takes_next_fit listed onCircle (show (5 : Word) ≠ 0 by decide)
  obtain ⟨lower, block, upper, _, _, _, -, -, -, result, takes⟩ := found (by decide)
  rw [taken] at result
  cases result
  exact ⟨list, memory, units, reached, listed, ⟨lower, block, upper, _, _, taken, takes⟩,
    (nothing (by decide)).1⟩

end FreeList

end NextFit
