/-
This file takes circles apart and puts them together again. The lower part of a circle is a
stem, whose links lead from the sentinel through some blocks to a node above them. A stem
can be made to end elsewhere, its last block can get another size, and a stem and the nodes
above it make a circle.
-/

import NextFit.Proofs.FreeList.Canonical

namespace NextFit

/-! ### Tags -/

/-- A link to a place where a header can stand is not the tag. -/
theorem Header.isTagged_eq_false {header : Header} (aligned : 16 ∣ header.next.toNat) :
    header.isTagged = false := by
  rw [Header.isTagged, beq_eq_false_iff_ne]
  intro tag
  rw [tag] at aligned
  exact absurd aligned (by decide)

namespace Memory

/-- From one memory to another the tag comes to no units but the given ones. -/
def TagsOnly (before after : Memory) (units : Finset Nat) : Prop :=
  ∀ address, unitOf address ∉ units → (after.header address).isTagged = true →
    (before.header address).isTagged = true

variable {before middle after : Memory} {units more : Finset Nat} {place : Address}

theorem TagsOnly.refl (memory : Memory) (units : Finset Nat) : memory.TagsOnly memory units :=
  fun _ _ tagged => tagged

theorem TagsOnly.trans (first : before.TagsOnly middle units)
    (second : middle.TagsOnly after units) : before.TagsOnly after units :=
  fun address outside tagged => first address outside (second address outside tagged)

theorem TagsOnly.mono (tags : before.TagsOnly after units) (subset : units ⊆ more) :
    before.TagsOnly after more :=
  fun address outside => tags address fun inside => outside (subset inside)

/-- Where the headers stay as they are no tag comes. -/
theorem TagsOnly.of_same (same : ∀ address, unitOf address ∉ units →
    after.header address = before.header address) : before.TagsOnly after units :=
  fun address outside tagged => same address outside ▸ tagged

/-- Nor does one come if a single header changes and is without a tag. -/
theorem TagsOnly.of_frame (clear : (after.header place).isTagged = false)
    (frame : ∀ address, unitOf place ≠ unitOf address →
      after.header address = before.header address) (units : Finset Nat) :
    before.TagsOnly after units := by
  intro address _ tagged
  by_cases here : unitOf place = unitOf address
  · rw [← header_congr after here, clear] at tagged
    cases tagged
  · exact frame address here ▸ tagged

theorem tagsOnly_setSize (memory : Memory) (address : Address) (size : Word)
    (units : Finset Nat) : memory.TagsOnly (memory.setSize address size) units := by
  intro other _ tagged
  rw [header_setSize] at tagged
  split at tagged <;> exact tagged

end Memory

namespace FreeList

/-- The lower part of a circle: the links lead from the sentinel through some blocks to a node
that need not be the sentinel. -/
structure Stem (sentinel : Address) (memory : Memory) (blocks : List FreeBlock) (last : Address) :
    Prop where
  canonical : Canonical sentinel blocks
  leads : Leads memory sentinel (sentinel :: blocks.map FreeBlock.header) last
  sizes : ∀ block ∈ blocks, memory.size block.header = block.units
  sentinelSize : memory.size sentinel = 0

variable {list : FreeList} {memory : Memory} {lower upper : List FreeBlock} {block : FreeBlock}
  {sentinel last : Address}

theorem nodes_concat (front : List FreeBlock) (below : FreeBlock) :
    sentinel :: (front ++ [below]).map FreeBlock.header =
      (sentinel :: front.map FreeBlock.header) ++ [below.header] := by
  rw [List.map_append, ← List.cons_append, List.map_singleton]

theorem getLastD_headers (front : List FreeBlock) (below : FreeBlock) :
    ((front ++ [below]).map FreeBlock.header).getLastD sentinel = below.header := by
  rw [List.map_append, List.map_singleton, List.getLastD_concat]

/-- The last node of the lower blocks is on the circle. -/
theorem last_mem (lower rest : List FreeBlock) :
    (lower.map FreeBlock.header).getLastD sentinel ∈
      sentinel :: (lower ++ rest).map FreeBlock.header := by
  rw [List.map_append, ← List.cons_append]
  exact List.mem_append_left _ List.getLastD_mem_cons

/-- It has no unit in common with the upper ones. -/
theorem unitOf_last_ne (canonical : Canonical sentinel (lower ++ upper)) :
    ∀ node ∈ upper.map FreeBlock.header,
      unitOf ((lower.map FreeBlock.header).getLastD sentinel) ≠ unitOf node := by
  obtain ⟨init, whole⟩ := exists_init sentinel (lower.map FreeBlock.header)
  have split : sentinel :: (lower ++ upper).map FreeBlock.header =
      init ++ (lower.map FreeBlock.header).getLastD sentinel :: upper.map FreeBlock.header := by
    rw [List.map_append, ← List.cons_append, whole, List.append_assoc, List.singleton_append]
  exact fun node member =>
    canonical.unitOf_ne_of_split split node (List.mem_append_right _ member)

/-- The last node is the sentinel or one of the blocks. -/
theorem unitOf_last (canonical : Canonical sentinel lower) :
    unitOf ((lower.map FreeBlock.header).getLastD sentinel) = unitOf sentinel ∨
      unitOf ((lower.map FreeBlock.header).getLastD sentinel) ∈ freeUnits lower := by
  rcases List.mem_cons.mp (List.getLastD_mem_cons (l := lower.map FreeBlock.header)
    (a := sentinel)) with same | member
  · exact Or.inl (congrArg unitOf same)
  · exact Or.inr (canonical.unitOf_mem_freeUnits member)

/-- A stem only depends on the headers of its nodes. -/
theorem Stem.congr {other : Memory} (stem : Stem sentinel memory lower last)
    (same : ∀ node ∈ sentinel :: lower.map FreeBlock.header,
      other.header node = memory.header node) :
    Stem sentinel other lower last := by
  refine ⟨stem.canonical, stem.leads.congr fun node member => ?_, fun block member => ?_, ?_⟩
  · exact congrArg Header.next (same node member)
  · have listed : block.header ∈ lower.map FreeBlock.header := List.mem_map_of_mem member
    exact (congrArg Header.size (same _ (List.mem_cons_of_mem _ listed))).trans
      (stem.sizes block member)
  · exact (congrArg Header.size (same _ List.mem_cons_self)).trans stem.sentinelSize

theorem Stem.next_last (stem : Stem sentinel memory lower last) :
    memory.next ((lower.map FreeBlock.header).getLastD sentinel) = last := by
  obtain ⟨init, whole⟩ := exists_init sentinel (lower.map FreeBlock.header)
  have leads := stem.leads
  rw [whole, leads_split] at leads
  exact leads.2

/-- The links of a circle never leave it. -/
theorem Holds.next_mem {blocks : List FreeBlock} {node : Address}
    (holds : list.Holds memory blocks)
    (member : node ∈ list.sentinel :: blocks.map FreeBlock.header) :
    memory.next node ∈ list.sentinel :: blocks.map FreeBlock.header := by
  have next := holds.circle.next_mem member
  rw [List.cons_append, List.tail_cons, List.mem_append, List.mem_singleton] at next
  exact List.mem_cons.mpr next.symm

/-- Two memories in which a list holds the same blocks have the same links and sizes at its
nodes. -/
theorem Holds.header_unique {other : Memory} {blocks : List FreeBlock}
    (holds : list.Holds memory blocks) (otherHolds : list.Holds other blocks) :
    ∀ node ∈ list.sentinel :: blocks.map FreeBlock.header,
      other.next node = memory.next node ∧ other.size node = memory.size node := by
  obtain ⟨-, next⟩ := holds.circle.next_unique otherHolds.circle
  refine fun node member => ⟨next node member, ?_⟩
  rcases List.mem_cons.mp member with rfl | listed
  · rw [holds.sentinelSize, otherHolds.sentinelSize]
  · obtain ⟨block, blockMember, rfl⟩ := List.mem_map.mp listed
    rw [holds.sizes block blockMember, otherHolds.sizes block blockMember]

/-- A circle falls into a stem and the nodes above it. -/
theorem Holds.exists_stem (holds : list.Holds memory (lower ++ upper)) :
    ∃ middle, Stem list.sentinel memory lower middle ∧
      Leads memory middle (upper.map FreeBlock.header) list.sentinel := by
  have circle := holds.circle
  rw [List.map_append, ← List.cons_append] at circle
  obtain ⟨middle, toMiddle, fromMiddle⟩ := leads_append.mp circle
  exact ⟨middle, ⟨holds.canonical.sublist (List.sublist_append_left lower upper), toMiddle,
    fun block member => holds.sizes block (List.mem_append_left _ member), holds.sentinelSize⟩,
    fromMiddle⟩

/-- The stem below a block ends at it. -/
theorem Holds.stem_below (holds : list.Holds memory (lower ++ block :: upper)) :
    Stem list.sentinel memory lower block.header ∧
      Leads memory (memory.next block.header) (upper.map FreeBlock.header) list.sentinel := by
  obtain ⟨_, stem, rfl, leads⟩ := holds.exists_stem
  exact ⟨stem, leads⟩

/-- A stem and the nodes above it make a circle. -/
theorem Stem.close (stem : Stem sentinel memory lower last) (canonical : Canonical sentinel upper)
    (under : ∀ low ∈ lower, ∀ high ∈ upper, low.Under sentinel high)
    (leads : Leads memory last (upper.map FreeBlock.header) sentinel)
    (sizes : ∀ block ∈ upper, memory.size block.header = block.units) {rover : Address}
    (listed : rover ∈ sentinel :: lower.map FreeBlock.header) :
    Holds { sentinel, rover } memory (lower ++ upper) where
  canonical := ⟨canonical.sentinelLies,
    List.forall_mem_append.mpr ⟨stem.canonical.sits, canonical.sits⟩,
    List.pairwise_append.mpr ⟨stem.canonical.separated, canonical.separated, under⟩⟩
  circle := by
    rw [List.map_append, ← List.cons_append, leads_append]
    exact ⟨last, stem.leads, leads⟩
  sizes := List.forall_mem_append.mpr ⟨stem.sizes, sizes⟩
  sentinelSize := stem.sentinelSize
  rover := by
    rw [List.map_append, ← List.cons_append]
    exact List.mem_append_left _ listed

/-! ### Surgery on a stem -/

/-- The last node of a stem can be linked to any node. -/
theorem Stem.relink (stem : Stem sentinel memory lower last) (target : Address) :
    Stem sentinel (memory.setNext ((lower.map FreeBlock.header).getLastD sentinel) target) lower
      target := by
  obtain ⟨init, whole⟩ := exists_init sentinel (lower.map FreeBlock.header)
  have apart := stem.canonical.unitOf_ne_of_split whole
  have leads := stem.leads
  rw [List.append_nil] at apart
  rw [whole, leads_split] at leads
  refine ⟨stem.canonical, ?_, fun block member => ?_, ?_⟩
  · rw [whole, leads_split, Memory.next_setNext, if_pos rfl]
    refine ⟨leads.1.congr fun node member => ?_, rfl⟩
    rw [Memory.next_setNext, if_neg (apart node member)]
  · rw [Memory.size_setNext]
    exact stem.sizes block member
  · rw [Memory.size_setNext]
    exact stem.sentinelSize

/-- A block at which a stem ends can become a part of it. -/
theorem Stem.snoc (stem : Stem sentinel memory lower block.header) (sits : block.Sits sentinel)
    (under : ∀ other ∈ lower, other.Under sentinel block)
    (size : memory.size block.header = block.units) :
    Stem sentinel memory (lower ++ [block]) (memory.next block.header) := by
  refine ⟨⟨stem.canonical.sentinelLies, ?_, ?_⟩, ?_, ?_, stem.sentinelSize⟩
  · rw [List.forall_mem_append, List.forall_mem_singleton]
    exact ⟨stem.canonical.sits, sits⟩
  · rw [List.pairwise_append]
    refine ⟨stem.canonical.separated, List.pairwise_singleton _ _, fun other low new same => ?_⟩
    exact List.mem_singleton.mp same ▸ under other low
  · rw [nodes_concat, leads_split]
    exact ⟨stem.leads, rfl⟩
  · rw [List.forall_mem_append, List.forall_mem_singleton]
    exact ⟨stem.sizes, size⟩

/-- Linking the last node to a new block makes the block a part of the stem. -/
theorem Stem.link (stem : Stem sentinel memory lower last) (sits : block.Sits sentinel)
    (under : ∀ other ∈ lower, other.Under sentinel block)
    (size : memory.size block.header = block.units) :
    Stem sentinel (memory.setNext ((lower.map FreeBlock.header).getLastD sentinel) block.header)
      (lower ++ [block]) (memory.next block.header) := by
  have linked := (stem.relink block.header).snoc sits under
    ((Memory.size_setNext _ _ _ _).trans size)
  have apart := linked.canonical.unitOf_ne_of_split (nodes_concat lower block)
  rw [List.append_nil] at apart
  rw [Memory.next_setNext, if_neg (apart _ List.getLastD_mem_cons).symm] at linked
  exact linked

/-- The last block of a stem can get any size that keeps it clear of the other blocks. -/
theorem Stem.resize (stem : Stem sentinel memory (lower ++ [block]) last) {units : Word}
    (canonical : Canonical sentinel (lower ++ [{ block with units }])) :
    Stem sentinel (memory.setSize block.header units) (lower ++ [{ block with units }]) last := by
  have sameNodes : (lower ++ [{ block with units }]).map FreeBlock.header =
      (lower ++ [block]).map FreeBlock.header := by
    rw [List.map_append, List.map_append, List.map_singleton, List.map_singleton]
  have apart := stem.canonical.unitOf_ne_of_split (nodes_concat lower block)
  rw [List.append_nil] at apart
  have sizes := stem.sizes
  rw [List.forall_mem_append] at sizes
  refine ⟨canonical, ?_, ?_, ?_⟩
  · rw [sameNodes]
    exact stem.leads.congr fun node _ => Memory.next_setSize _ _ _ _
  · rw [List.forall_mem_append, List.forall_mem_singleton, Memory.size_setSize, if_pos rfl]
    refine ⟨fun other member => ?_, rfl⟩
    rw [Memory.size_setSize,
      if_neg (apart _ (List.mem_cons_of_mem _ (List.mem_map_of_mem member)))]
    exact sizes.1 other member
  · rw [Memory.size_setSize, if_neg (apart _ List.mem_cons_self)]
    exact stem.sentinelSize

/-- The last block of a stem takes in a new one above it that it touches. -/
theorem Stem.absorb {below : FreeBlock} (stem : Stem sentinel memory (lower ++ [below]) last)
    (sits : block.Sits sentinel) (touch : below.header.above below.units = block.header) :
    Stem sentinel
      ((memory.setSize below.header (below.units + block.units)).setNext below.header
        (memory.next block.header))
      (lower ++ [{ below with units := below.units + block.units }])
      (memory.next block.header) := by
  have canonical := stem.canonical
  obtain ⟨-, joinedSits, -⟩ := (canonical.sits below (by simp)).join sits touch
  have joined : Canonical sentinel
      (lower ++ [{ below with units := below.units + block.units }]) := by
    refine ⟨canonical.sentinelLies, ?_, ?_⟩
    · rw [List.forall_mem_append, List.forall_mem_singleton]
      exact ⟨fun other member => canonical.sits other (List.mem_append_left _ member), joinedSits⟩
    · rw [List.pairwise_append]
      obtain ⟨separated, -, under⟩ := List.pairwise_append.mp canonical.separated
      refine ⟨separated, List.pairwise_singleton _ _, fun other low joined same => ?_⟩
      rw [List.mem_singleton.mp same]
      exact under other low below List.mem_cons_self
  have relinked := (stem.resize joined).relink (memory.next block.header)
  rw [getLastD_headers] at relinked
  exact relinked

end FreeList

end NextFit
