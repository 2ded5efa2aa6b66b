/-
This file says exactly where an insertion puts a block, wherever the rover stands. There is one
place on the circle where the block belongs, the search comes to it without looking at any
node twice, and what becomes of the list does not depend on the rover. At most one node
leaves the circle: the one at which the block ends, unless this is the sentinel.
-/

import NextFit.Proofs.FreeList.Fitting

namespace NextFit

/-- A free unit whose lower neighbour is not free is the first one of a block. -/
theorem Canonical.header_mem {sentinel node : Address} {blocks : List FreeBlock}
    (canonical : Canonical sentinel blocks) (aligned : 16 ∣ node.toNat)
    (free : unitOf node ∈ freeUnits blocks) (first : unitOf node - 1 ∉ freeUnits blocks) :
    node ∈ blocks.map FreeBlock.header := by
  obtain ⟨block, member, here⟩ := mem_freeUnits.mp free
  have lies := (canonical.sits block member).lies
  have before : unitOf node - 1 ∉ block.stretch := fun inside =>
    first (mem_freeUnits.mpr ⟨block, member, inside⟩)
  rw [FreeBlock.stretch, mem_stretch] at here before
  have same : block.header = node := (unitOf_inj lies.aligned aligned).mp (by omega)
  exact same ▸ List.mem_map_of_mem member

namespace FreeList

variable {list after : FreeList} {memory memoryAfter : Memory}
  {blocks blocksAfter : List FreeBlock} {block : FreeBlock} {sentinel rover : Address}
  {units : Finset Nat}

/-! ### The place -/

/-- A block belongs after one node of a circle and after no other, and the search finds this node
from wherever it begins, without looking at any node twice. -/
structure Place (memory : Memory) (circle : List Address) (block place : Address) : Prop where
  mem : place ∈ circle
  between_iff : ∀ node ∈ circle, between node (memory.next node) block = true ↔ node = place
  search : ∀ rover ∈ circle, ∃ rounds < circle.length, ∀ fuel,
    placeFrom memory block fuel rover =
      if fuel ≤ rounds then .error .endlessWalk else .ok place
  /-- It is the greatest node below the block, or the greatest of all if none is below. -/
  nearest : (place < block ∧ ∀ node ∈ circle, node < block → node ≤ place) ∨
    ∀ node ∈ circle, block < node ∧ node ≤ place

/-- On the line of ranks no node lies between a block and the last node that ranks below it. -/
theorem Cuts.gap {block node : Address} {lower upper : List Address}
    (canonical : Canonical sentinel blocks)
    (cuts : Cuts sentinel (blocks.map FreeBlock.header) block lower upper)
    (member : node ∈ sentinel :: blocks.map FreeBlock.header) :
    rank sentinel node ≤ rank sentinel (lower.getLastD sentinel) ∨
      rank sentinel block < rank sentinel node := by
  obtain ⟨init, whole⟩ := exists_init sentinel lower
  have ranks := canonical.ranks
  rw [cuts.nodes_eq, ← List.cons_append] at member ranks
  rw [whole, List.append_assoc, List.pairwise_append] at ranks
  refine (List.mem_append.mp member).imp (fun low => ?_) (cuts.above node)
  rw [whole, List.mem_append, List.mem_singleton] at low
  rcases low with early | rfl
  · exact Nat.le_of_lt (ranks.2.2 node early _ List.mem_cons_self)
  · exact Nat.le_refl _

/-- The last node that ranks below a block is the greatest one with an address below it, or else
the greatest of all. -/
theorem Cuts.nearest {block : Address} {lower upper : List Address}
    (canonical : Canonical sentinel blocks)
    (cuts : Cuts sentinel (blocks.map FreeBlock.header) block lower upper)
    (aligned : 16 ∣ block.toNat) :
    (lower.getLastD sentinel < block ∧ ∀ node ∈ sentinel :: blocks.map FreeBlock.header,
      node < block → node ≤ lower.getLastD sentinel) ∨
    ∀ node ∈ sentinel :: blocks.map FreeBlock.header,
      block < node ∧ node ≤ lower.getLastD sentinel := by
  have under := cuts.below _ List.getLastD_mem_cons
  have placeAligned := canonical.aligned_of_mem cuts.place_mem
  have bound := unitOf_lt sentinel
  have placeBound := unitOf_lt (lower.getLastD sentinel)
  have blockBound := unitOf_lt block
  have root := cuts.gap canonical List.mem_cons_self
  simp only [← UInt64.not_lt, lt_iff_unitOf_lt placeAligned aligned]
  by_cases below : unitOf (lower.getLastD sentinel) < unitOf block
  · refine Or.inl ⟨below, fun node member => ?_⟩
    have nodeAligned := canonical.aligned_of_mem member
    have nodeBound := unitOf_lt node
    have beside := cuts.gap canonical member
    rw [lt_iff_unitOf_lt nodeAligned aligned, lt_iff_unitOf_lt placeAligned nodeAligned]
    unfold rank at beside under
    omega
  · refine Or.inr fun node member => ?_
    have nodeAligned := canonical.aligned_of_mem member
    have nodeBound := unitOf_lt node
    have beside := cuts.gap canonical member
    have apart : unitOf block ≠ unitOf node := fun same =>
      cuts.ne_of_mem member ((unitOf_inj aligned nodeAligned).mp same)
    rw [lt_iff_unitOf_lt aligned nodeAligned, lt_iff_unitOf_lt placeAligned nodeAligned]
    unfold rank at beside under root
    omega

theorem Holds.place {lower upper : List Address} {block : Address}
    (holds : list.Holds memory blocks)
    (cuts : Cuts list.sentinel (blocks.map FreeBlock.header) block lower upper)
    (aligned : 16 ∣ block.toNat) :
    Place memory (list.sentinel :: blocks.map FreeBlock.header) block
      (lower.getLastD list.sentinel) where
  mem := cuts.place_mem
  between_iff node member := holds.between_next_iff cuts aligned member
  search rover member := by
    obtain ⟨rounds, short, search⟩ := holds.exists_rounds cuts aligned member
    rw [List.length_cons, List.length_map]
    exact ⟨rounds, Nat.lt_succ_of_le short, search⟩
  nearest := cuts.nearest holds.canonical aligned

/-- Insertions that find the same place do the same. -/
theorem insert_roving {header below : Address}
    (here : list.findPlace header memory = .ok below)
    (there : findPlace { list with rover } header memory = .ok below) :
    insert { list with rover } header memory = list.insert header memory := by
  unfold insert
  rw [get_bind, get_bind]
  by_cases empty : memory.size header = 0
  · rw [if_pos empty, if_pos empty]
  · rw [if_neg empty, if_neg empty, Surgery.ask_bind here, Surgery.ask_bind there]
    rfl

/-! ### The list with the block on it -/

/-- The outcome of putting a block on a list, as its nodes and units show it. -/
structure Accepts (list : FreeList) (blocks : List FreeBlock) (block : FreeBlock)
    (after : FreeList) (memoryAfter : Memory) (blocksAfter : List FreeBlock) : Prop where
  blocks_eq : after.blocks memoryAfter = .ok blocksAfter
  units : freeUnits blocksAfter = block.stretch ∪ freeUnits blocks
  rover_mem : after.rover ∈ list.sentinel :: blocksAfter.map FreeBlock.header
  /-- No node leaves the circle but a block at which the new one ends. -/
  absorbed : ∀ node ∈ list.sentinel :: blocks.map FreeBlock.header,
    node ∉ list.sentinel :: blocksAfter.map FreeBlock.header →
      node = block.header.above block.units
  /-- No node comes to the circle but the new block. -/
  added : ∀ node ∈ list.sentinel :: blocksAfter.map FreeBlock.header,
    node ∉ list.sentinel :: blocks.map FreeBlock.header → node = block.header
  sentinel_eq : after.sentinel = list.sentinel
  sentinelSize : memoryAfter.size list.sentinel = 0
  sentinelApart : unitOf list.sentinel ∉ freeUnits blocksAfter

/-- A block that is taken in is the one at which the new block ends. -/
theorem Inserted.absorbed
    (inserted : Inserted list memory blocks block after memoryAfter blocksAfter)
    (holds : list.Holds memory blocks) (sits : block.Sits list.sentinel)
    (disjoint : Disjoint block.stretch (freeUnits blocks)) {node : Address}
    (listed : node ∈ blocks.map FreeBlock.header)
    (gone : node ∉ blocksAfter.map FreeBlock.header) :
    node = block.header.above block.units := by
  obtain ⟨other, member, rfl⟩ := List.mem_map.mp listed
  have run := holds.canonical.isRun_of_mem member
  have free := run.inside (start_mem_stretch run.nonempty)
  have before : unitOf other.header - 1 ∈ block.stretch := by
    by_contra outside
    refine gone (inserted.holds.canonical.header_mem run.lies.aligned ?_ ?_)
    · rw [inserted.units]
      exact Finset.mem_union_right _ free
    · rw [inserted.units, Finset.mem_union, not_or]
      exact ⟨outside, run.before⟩
  have here : unitOf other.header ∉ block.stretch := Finset.disjoint_right.mp disjoint free
  have positive := run.lies.unitOf_pos
  rw [FreeBlock.stretch, mem_stretch] at before here
  exact ((sits.lies.above_eq_iff run.lies).mpr (by omega)).symm

/-- A block that was not on the list begins where the new block does. -/
theorem Inserted.added
    (inserted : Inserted list memory blocks block after memoryAfter blocksAfter)
    (holds : list.Holds memory blocks) (sits : block.Sits list.sentinel) {node : Address}
    (listed : node ∈ blocksAfter.map FreeBlock.header)
    (new : node ∉ blocks.map FreeBlock.header) : node = block.header := by
  obtain ⟨other, member, rfl⟩ := List.mem_map.mp listed
  have run := inserted.holds.canonical.isRun_of_mem member
  have free := run.inside (start_mem_stretch run.nonempty)
  have before := run.before
  rw [inserted.units, Finset.mem_union] at free
  rw [inserted.units, Finset.mem_union, not_or] at before
  have here : unitOf other.header ∈ block.stretch := free.resolve_right fun old =>
    new (holds.canonical.header_mem run.lies.aligned old before.2)
  have outside := before.1
  rw [FreeBlock.stretch, mem_stretch] at here outside
  exact (unitOf_inj run.lies.aligned sits.lies.aligned).mp (by omega)

theorem Inserted.accepts
    (inserted : Inserted list memory blocks block after memoryAfter blocksAfter)
    (holds : list.Holds memory blocks) (sits : block.Sits list.sentinel)
    (disjoint : Disjoint block.stretch (freeUnits blocks)) :
    Accepts list blocks block after memoryAfter blocksAfter := by
  have holdsAfter := inserted.holds
  have root := inserted.sentinel_eq
  refine ⟨holdsAfter.blocks_eq, inserted.units, root ▸ holdsAfter.rover, ?_, ?_, root,
    root ▸ holdsAfter.sentinelSize, root ▸ holdsAfter.canonical.sentinel_notMem⟩
  · intro node member gone
    rw [List.mem_cons, not_or] at gone
    exact inserted.absorbed holds sits disjoint
      ((List.mem_cons.mp member).resolve_left gone.1) gone.2
  · intro node member new
    rw [List.mem_cons, not_or] at new
    exact inserted.added holds sits ((List.mem_cons.mp member).resolve_left new.1) new.2

/-! ### Where the rover stops -/

/-- A node is the last one of a circle that ranks below an address. -/
structure StopsBelow (sentinel : Address) (nodes : List Address) (edge node : Address) : Prop where
  mem : node ∈ sentinel :: nodes
  below : rank sentinel node < rank sentinel edge
  last : ∀ other ∈ sentinel :: nodes, rank sentinel other < rank sentinel edge →
    rank sentinel other ≤ rank sentinel node

/-- There is only one such node. -/
theorem StopsBelow.unique {edge node other : Address} (canonical : Canonical sentinel blocks)
    (stops : StopsBelow sentinel (blocks.map FreeBlock.header) edge node)
    (otherStops : StopsBelow sentinel (blocks.map FreeBlock.header) edge other) :
    other = node := by
  have same : rank sentinel other = rank sentinel node :=
    Nat.le_antisymm (stops.last other otherStops.mem otherStops.below)
      (otherStops.last node stops.mem stops.below)
  have bound := unitOf_lt sentinel
  have nodeBound := unitOf_lt node
  have otherBound := unitOf_lt other
  refine (unitOf_inj (canonical.aligned_of_mem otherStops.mem)
    (canonical.aligned_of_mem stops.mem)).mp ?_
  unfold rank at same
  omega

/-- On the circle with a new block on it, whether or not the block was merged, the rover is the last
node that ranks below the header of the block. -/
theorem Inserted.stopsBelow
    (inserted : Inserted list memory blocks block after memoryAfter blocksAfter)
    (holds : list.Holds memory blocks) (sits : block.Sits list.sentinel) :
    StopsBelow after.sentinel (blocksAfter.map FreeBlock.header) block.header after.rover := by
  obtain ⟨lower, upper, cuts, stops⟩ := inserted.rover
  refine ⟨inserted.holds.rover, ?_, fun node member under => ?_⟩
  · rw [inserted.sentinel_eq, stops]
    exact cuts.below _ List.getLastD_mem_cons
  · rw [inserted.sentinel_eq] at member under ⊢
    -- A node that is new is the block itself, and this does not rank below its own header.
    have old : node ∈ list.sentinel :: blocks.map FreeBlock.header := by
      by_contra new
      rw [List.mem_cons, not_or] at new
      have same := inserted.added holds sits ((List.mem_cons.mp member).resolve_left new.1) new.2
      exact Nat.lt_irrefl _ (same ▸ under)
    rw [stops]
    exact (cuts.gap holds.canonical old).resolve_right (Nat.lt_asymm under)

/-- Two lists are the same if they have the same sentinel and the same free units, and if their
rovers stop below the same address. -/
theorem Holds.eq_of_stopsBelow {other : FreeList} {otherMemory : Memory}
    {otherBlocks : List FreeBlock} {edge : Address} (holds : list.Holds memory blocks)
    (otherHolds : other.Holds otherMemory otherBlocks) (root : other.sentinel = list.sentinel)
    (units : freeUnits otherBlocks = freeUnits blocks)
    (stops : StopsBelow list.sentinel (blocks.map FreeBlock.header) edge list.rover)
    (otherStops : StopsBelow other.sentinel (otherBlocks.map FreeBlock.header) edge other.rover) :
    other = list ∧ otherBlocks = blocks := by
  have otherCanonical := otherHolds.canonical
  rw [root] at otherCanonical otherStops
  obtain rfl := otherCanonical.eq_of_freeUnits_eq holds.canonical units
  have stop := stops.unique holds.canonical otherStops
  refine ⟨?_, rfl⟩
  cases list
  cases other
  cases root
  cases stop
  rfl

/-! ### After any history -/

/-- After any history a block that sits beside the sentinel and has no unit in common with the free
ones has one place on the circle. From wherever the rover stands the search finds it, going
round the circle at most once, and the insertion leads to the same list and the same memory. -/
theorem Reaches.insert_finds_place (reached : Reaches sentinel list memory units)
    (listed : list.blocks memory = .ok blocks) (sits : block.Sits sentinel)
    (apart : ∀ free ∈ blocks, Disjoint block.stretch free.stretch)
    (size : memory.size block.header = block.units) :
    ∃ place memoryAfter blocksAfter,
      Place memory (sentinel :: blocks.map FreeBlock.header) block.header place ∧
      (∀ rover ∈ sentinel :: blocks.map FreeBlock.header,
        insert { list with rover } block.header memory =
          .ok { list with rover := place } memoryAfter) ∧
      Accepts list blocks block { list with rover := place } memoryAfter blocksAfter := by
  obtain ⟨blocks, holds, rfl, rfl⟩ := reached.exists_holds
  rw [holds.blocks_eq] at listed
  cases listed
  have disjoint := disjoint_freeUnits.mpr apart
  obtain ⟨after, memoryAfter, blocksAfter, result, inserted⟩ :=
    holds.insert_spec sits disjoint size
  obtain ⟨lower, upper, cuts, stops⟩ := inserted.rover
  have moved : after = { list with rover := lower.getLastD list.sentinel } := by
    rw [← stops, ← inserted.sentinel_eq]
  subst moved
  refine ⟨_, memoryAfter, blocksAfter, holds.place cuts sits.lies.aligned,
    fun rover onCircle => ?_, inserted.accepts holds sits disjoint⟩
  rw [← result]
  exact insert_roving (holds.findPlace_eq cuts sits.lies.aligned)
    ((holds.roving onCircle).findPlace_eq cuts sits.lies.aligned)

/-- A block that ends at the sentinel is put on a list that has another one right after the unit of
the sentinel. The three do not become one. -/
theorem insert_finds_place_beside_sentinel :
    ∃ list memory units memoryAfter blocksAfter, Reaches 4096 list memory units ∧
      list.blocks memory = .ok [{ header := 4112, units := 4 }] ∧
      insert { list with rover := 4112 } 4064 memory =
        .ok { list with rover := 4112 } memoryAfter ∧
      Accepts list [{ header := 4112, units := 4 }] { header := 4064, units := 2 }
        { list with rover := 4112 } memoryAfter blocksAfter := by
  have created : Reaches 4096 _ _ ∅ := .create {} ⟨by decide, by decide, by decide⟩ rfl
  have extended := Reaches.call (.extend 4064 2) created rfl
    ⟨by rintro _ ⟨⟩; exact ⟨⟨by decide, by decide, by decide⟩, by decide, by decide⟩,
      by rintro _ ⟨⟩; exact List.forall_mem_nil _, nofun⟩ rfl
  have taken := Reaches.call (.take 2) extended rfl ⟨nofun, nofun, by simp⟩ rfl
  have extendedAgain := Reaches.call (.extend 4112 4) taken rfl
    ⟨by rintro _ ⟨⟩; exact ⟨⟨by decide, by decide, by decide⟩, by decide, by decide⟩,
      by rintro _ ⟨⟩; exact List.forall_mem_nil _, nofun⟩ rfl
  obtain ⟨list, memory, units, listed, size, ⟨_, here⟩, reached⟩ :
      ∃ list memory units,
        list.blocks memory = .ok [{ header := 4112, units := 4 }] ∧ memory.size 4064 = 2 ∧
        (∃ memoryAfter, insert { list with rover := 4112 } 4064 memory =
          .ok { list with rover := 4112 } memoryAfter) ∧
        Reaches 4096 list memory units := ⟨_, _, _, rfl, rfl, ⟨_, rfl⟩, extendedAgain⟩
  have sits : FreeBlock.Sits 4096 { header := 4064, units := 2 } :=
    ⟨⟨by decide, by decide, by decide⟩, by decide, by decide⟩
  obtain ⟨place, memoryAfter, blocksAfter, -, inserts, accepts⟩ :=
    reached.insert_finds_place listed sits (List.forall_mem_singleton.mpr (by decide)) size
  have result := inserts 4112 (by decide)
  obtain ⟨rfl, rfl⟩ : place = 4112 ∧ _ = memoryAfter := by
    rw [here] at result
    injection result with moved same
    exact ⟨(congrArg FreeList.rover moved).symm, same⟩
  exact ⟨list, memory, units, _, blocksAfter, reached, listed, result, accepts⟩

end FreeList

end NextFit
