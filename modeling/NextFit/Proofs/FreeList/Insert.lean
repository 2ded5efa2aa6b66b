/-
This file proves what an insertion does. From wherever the rover stands the search ends at
the last node that ranks below the block, and there is one place only where it can end.
The block is then joined with the node above and with the node below, and either join
takes two blocks that touch into one. The outcome is a canonical list again, with the
units of the block added to it, and no memory outside the units of that list has changed.
-/

import NextFit.Proofs.FreeList.Stem

namespace NextFit

namespace FreeList

/-! ### The place of a block -/

/-- A block ranks above the sentinel and the lower nodes of a circle, and below the upper ones. -/
structure Cuts (sentinel : Address) (nodes : List Address) (block : Address)
    (lower upper : List Address) : Prop where
  nodes_eq : nodes = lower ++ upper
  below : ∀ node ∈ sentinel :: lower, rank sentinel node < rank sentinel block
  above : ∀ node ∈ upper, rank sentinel block < rank sentinel node

theorem Cuts.ne_of_mem {sentinel block node : Address} {nodes lower upper : List Address}
    (cuts : Cuts sentinel nodes block lower upper) (member : node ∈ sentinel :: nodes) :
    block ≠ node := by
  rintro rfl
  rw [cuts.nodes_eq, ← List.cons_append, List.mem_append] at member
  rcases member with low | high
  · exact Nat.lt_irrefl _ (cuts.below block low)
  · exact Nat.lt_irrefl _ (cuts.above block high)

/-- The last node below the block is on the circle. -/
theorem Cuts.place_mem {sentinel block : Address} {nodes lower upper : List Address}
    (cuts : Cuts sentinel nodes block lower upper) :
    lower.getLastD sentinel ∈ sentinel :: nodes := by
  rw [cuts.nodes_eq, ← List.cons_append]
  exact List.mem_append_left _ List.getLastD_mem_cons

/-- There is only one way to cut the nodes. -/
theorem Cuts.unique {sentinel block : Address}
    {nodes lower upper otherLower otherUpper : List Address}
    (cuts : Cuts sentinel nodes block lower upper)
    (otherCuts : Cuts sentinel nodes block otherLower otherUpper) : otherLower = lower := by
  have front : ∀ {lower upper : List Address}, Cuts sentinel nodes block lower upper →
      nodes.filter (fun node => rank sentinel node < rank sentinel block) = lower := by
    intro lower upper cuts
    have below : lower.filter (fun node => rank sentinel node < rank sentinel block) = lower :=
      List.filter_eq_self.mpr fun node member =>
        decide_eq_true (cuts.below node (List.mem_cons_of_mem _ member))
    have above : upper.filter (fun node => rank sentinel node < rank sentinel block) = [] :=
      List.filter_eq_nil_iff.mpr fun node member low =>
        Nat.lt_asymm (cuts.above node member) (of_decide_eq_true low)
    rw [cuts.nodes_eq, List.filter_append, below, above, List.append_nil]
  exact (front otherCuts).symm.trans (front cuts)

section Place

variable {list : FreeList} {memory : Memory} {blocks : List FreeBlock} {node block : Address}
  {lower upper : List Address}

/-- Along a link the rank goes up, unless the link leads back to the sentinel. -/
theorem Holds.rank_lt_next (holds : list.Holds memory blocks)
    (member : node ∈ list.sentinel :: blocks.map FreeBlock.header) :
    rank list.sentinel node < rank list.sentinel (memory.next node) ∨
      memory.next node = list.sentinel := by
  by_cases back : memory.next node = list.sentinel
  · exact Or.inr back
  · obtain ⟨front, after, split, here⟩ := holds.circle.next_eq member back
    have ranks := holds.canonical.ranks
    rw [split, ← List.cons_append, List.pairwise_append] at ranks
    exact Or.inl (ranks.2.2 node (here ▸ List.getLastD_mem_cons) _ List.mem_cons_self)

/-- A block belongs after the last of the nodes that rank below it, and after no other node. -/
theorem Holds.between_next_iff (holds : list.Holds memory blocks)
    (cuts : Cuts list.sentinel (blocks.map FreeBlock.header) block lower upper)
    (aligned : 16 ∣ block.toNat)
    (member : node ∈ list.sentinel :: blocks.map FreeBlock.header) :
    between node (memory.next node) block = true ↔ node = lower.getLastD list.sentinel := by
  have nextMember := holds.next_mem member
  rw [between_iff holds.canonical.sentinelLies.aligned (holds.canonical.aligned_of_mem member)
    (holds.canonical.aligned_of_mem nextMember) aligned (holds.rank_lt_next member)
    ⟨cuts.ne_of_mem member, cuts.ne_of_mem nextMember⟩]
  obtain ⟨init, whole⟩ := exists_init list.sentinel lower
  have circle := holds.circle
  rw [cuts.nodes_eq, ← List.cons_append, whole, List.append_assoc, List.singleton_append,
    leads_split] at circle
  constructor
  · rintro ⟨under, above⟩
    rw [cuts.nodes_eq, ← List.cons_append, List.mem_append] at member
    rcases member with low | high
    · rw [whole, List.mem_append, List.mem_singleton] at low
      refine low.resolve_left fun early => ?_
      have later := circle.1.next_mem early
      rw [← whole, List.tail_cons] at later
      rcases above with above | back
      · exact Nat.lt_asymm above (cuts.below _ (List.mem_cons_of_mem _ later))
      · have nodup := holds.canonical.nodup
        rw [cuts.nodes_eq, List.nodup_cons] at nodup
        exact nodup.1 (List.mem_append_left _ (back ▸ later))
    · exact absurd under (Nat.lt_asymm (cuts.above node high))
  · rintro rfl
    refine ⟨cuts.below _ List.getLastD_mem_cons, ?_⟩
    cases upper with
    | nil => exact Or.inr circle.2
    | cons first rest => exact Or.inl (circle.2.1 ▸ cuts.above first List.mem_cons_self)

/-- From any node of the circle the search for the place of a block ends at the last node that
ranks below it, and it looks at no node twice. -/
theorem Holds.exists_rounds (holds : list.Holds memory blocks)
    (cuts : Cuts list.sentinel (blocks.map FreeBlock.header) block lower upper)
    (aligned : 16 ∣ block.toNat)
    (member : node ∈ list.sentinel :: blocks.map FreeBlock.header) :
    ∃ rounds ≤ blocks.length, ∀ fuel, placeFrom memory block fuel node =
      if fuel ≤ rounds then .error .endlessWalk else .ok (lower.getLastD list.sentinel) := by
  have goal := cuts.place_mem
  obtain ⟨route, leads, onRoute, short⟩ :=
    holds.circle.exists_route holds.canonical.nodup member goal
  rw [List.length_cons, List.length_map] at short
  refine ⟨route.length, Nat.le_of_lt_succ short, placeFrom_eq leads ?_ (fun passed early => ?_)
    ((holds.between_next_iff cuts aligned goal).mpr rfl)⟩
  · rw [List.forall_mem_append, List.forall_mem_singleton]
    exact ⟨fun passed early => ⟨cuts.ne_of_mem (onRoute passed early).1,
      cuts.ne_of_mem (holds.next_mem (onRoute passed early).1)⟩,
      cuts.ne_of_mem goal, cuts.ne_of_mem (holds.next_mem goal)⟩
  · obtain ⟨listed, notGoal⟩ := onRoute passed early
    rw [← Bool.not_eq_true, holds.between_next_iff cuts aligned listed]
    exact notGoal

/-- So does the search from the rover on, wherever the rover stands. -/
theorem Holds.findPlace_eq (holds : list.Holds memory blocks)
    (cuts : Cuts list.sentinel (blocks.map FreeBlock.header) block lower upper)
    (aligned : 16 ∣ block.toNat) :
    list.findPlace block memory = .ok (lower.getLastD list.sentinel) := by
  have bound := holds.canonical.length_lt
  obtain ⟨rounds, short, search⟩ := holds.exists_rounds cuts aligned holds.rover
  exact (search longestWalk).trans (if_neg (by omega))

end Place

/-! ### The two joins -/

section Joins

variable {list : FreeList} {memory : Memory} {block above below : Address} {size : Word}

theorem joinAbove_of_touch (touch : above ≠ list.sentinel ∧ memory.blockEnd block = above)
    (sum : plus (memory.size block) (memory.size above) = .ok size) :
    list.joinAbove block above memory =
      .ok () ((memory.setSize block size).setNext block (memory.next above)) := by
  unfold joinAbove
  rw [get_bind, if_pos touch, ofExcept_bind sum]
  rfl

theorem joinAbove_of_apart (apart : ¬(above ≠ list.sentinel ∧ memory.blockEnd block = above)) :
    list.joinAbove block above memory = .ok () (memory.setNext block above) := by
  unfold joinAbove
  rw [get_bind, if_neg apart]
  rfl

theorem joinBelow_of_touch (touch : memory.blockEnd below = block)
    (sum : plus (memory.size below) (memory.size block) = .ok size) :
    joinBelow below block memory =
      .ok () ((memory.setSize below size).setNext below (memory.next block)) := by
  unfold joinBelow
  rw [get_bind, if_pos touch, ofExcept_bind sum]
  rfl

theorem joinBelow_of_apart (apart : memory.blockEnd below ≠ block) :
    joinBelow below block memory = .ok () (memory.setNext below block) := by
  unfold joinBelow
  rw [get_bind, if_neg apart]
  rfl

end Joins

section JoinSpecs

variable {list : FreeList} {memory : Memory} {block : FreeBlock}
  {blocks lower upper : List FreeBlock}

/-- A join above a block has linked it to the rest of the blocks above it. If it touched the first
of them, it has taken that one in. -/
structure JoinsAbove (sentinel : Address) (memory : Memory) (block : FreeBlock)
    (upper : List FreeBlock) (units : Word) (rest : List FreeBlock) (memoryAfter : Memory) :
    Prop where
  suffix : rest <:+ upper
  canonical : Canonical sentinel ({ block with units } :: rest)
  free : freeUnits ({ block with units } :: rest) = block.stretch ∪ freeUnits upper
  size : memoryAfter.size block.header = units
  leads : Leads memory (memoryAfter.next block.header) (rest.map FreeBlock.header) sentinel
  frame : ∀ address, unitOf block.header ≠ unitOf address →
    memoryAfter.header address = memory.header address

section Above

variable {above : Address} (sits : block.Sits list.sentinel)
  (canonical : Canonical list.sentinel upper)
  (size : memory.size block.header = block.units)
  (leads : Leads memory above (upper.map FreeBlock.header) list.sentinel)

include sits canonical size leads

/-- The node above is a block, and it is taken in. -/
theorem joinsAbove_of_touch (sizes : ∀ other ∈ upper, memory.size other.header = other.units)
    (touch : above ≠ list.sentinel ∧ memory.blockEnd block.header = above) :
    ∃ units rest memoryAfter, list.joinAbove block.header above memory = .ok () memoryAfter ∧
      JoinsAbove list.sentinel memory block upper units rest memoryAfter := by
  have blockEnd : memory.blockEnd block.header = block.header.above block.units :=
    congrArg block.header.above size
  obtain ⟨sentinelLies, allSit, separated⟩ := canonical
  cases upper with
  | nil => exact absurd leads touch.1
  | cons next rest =>
    obtain ⟨rfl, leads⟩ := leads
    rw [List.forall_mem_cons] at sizes allSit
    rw [List.pairwise_cons] at separated
    obtain ⟨fits, joinedSits, joinedUnits⟩ := sits.join allSit.1 (blockEnd.symm.trans touch.2)
    have meet := (sits.touch_iff allSit.1).mp (blockEnd.symm.trans touch.2)
    have sum : plus (memory.size block.header) (memory.size next.header) =
        .ok (block.units + next.units) := by
      rw [size, sizes.1, plus_of_lt fits]
    refine ⟨block.units + next.units, rest, _, joinAbove_of_touch touch sum,
      List.suffix_cons next rest, ⟨sentinelLies, List.forall_mem_cons.mpr ⟨joinedSits, allSit.2⟩,
        List.pairwise_cons.mpr ⟨fun other member => ?_, separated.2⟩⟩, ?_, ?_, ?_, ?_⟩
    · have gap := separated.1 other member
      unfold FreeBlock.Under at gap ⊢
      show rank list.sentinel block.header + (block.units + next.units).toNat < _
      rw [toNat_add_of_lt fits]
      omega
    · rw [freeUnits_cons, freeUnits_cons, joinedUnits, Finset.union_assoc]
    · rw [Memory.size_setNext, Memory.size_setSize, if_pos rfl]
    · rw [Memory.next_setNext, if_pos rfl]
      exact leads
    · intro address elsewhere
      rw [Memory.header_setNext, if_neg elsewhere, Memory.header_setSize, if_neg elsewhere]

/-- There is a gap above, or the node above is the sentinel. -/
theorem joinsAbove_of_apart
    (under : ∀ other ∈ upper,
      rank list.sentinel block.header + block.units.toNat ≤ rank list.sentinel other.header)
    (apart : ¬(above ≠ list.sentinel ∧ memory.blockEnd block.header = above)) :
    ∃ units rest memoryAfter, list.joinAbove block.header above memory = .ok () memoryAfter ∧
      JoinsAbove list.sentinel memory block upper units rest memoryAfter := by
  have blockEnd : memory.blockEnd block.header = block.header.above block.units :=
    congrArg block.header.above size
  obtain ⟨sentinelLies, allSit, separated⟩ := canonical
  refine ⟨block.units, upper, _, joinAbove_of_apart apart, List.suffix_refl upper,
    ⟨sentinelLies, List.forall_mem_cons.mpr ⟨sits, allSit⟩,
      List.pairwise_cons.mpr ⟨fun other member => ?_, separated⟩⟩, rfl, ?_, ?_, ?_⟩
  · refine Nat.lt_of_le_of_ne (under other member) fun meet => apart ?_
    cases upper with
    | nil => cases member
    | cons next rest =>
      obtain ⟨rfl, leads⟩ := leads
      rw [List.forall_mem_cons] at under allSit
      rw [List.pairwise_cons] at separated
      refine ⟨allSit.1.header_ne, blockEnd.trans ((sits.touch_iff allSit.1).mpr ?_)⟩
      rcases List.mem_cons.mp member with rfl | later
      · exact meet
      · have gap := separated.1 other later
        unfold FreeBlock.Under at gap
        have first := under.1
        replace meet : rank list.sentinel block.header + block.units.toNat =
          rank list.sentinel other.header := meet
        omega
  · rw [Memory.size_setNext]
    exact size
  · rw [Memory.next_setNext, if_pos rfl]
    exact leads
  · intro address elsewhere
    rw [Memory.header_setNext, if_neg elsewhere]

theorem joinAbove_spec (sizes : ∀ other ∈ upper, memory.size other.header = other.units)
    (under : ∀ other ∈ upper,
      rank list.sentinel block.header + block.units.toNat ≤ rank list.sentinel other.header) :
    ∃ units rest memoryAfter, list.joinAbove block.header above memory = .ok () memoryAfter ∧
      JoinsAbove list.sentinel memory block upper units rest memoryAfter := by
  by_cases touch : above ≠ list.sentinel ∧ memory.blockEnd block.header = above
  · exact joinsAbove_of_touch sits canonical size leads sizes touch
  · exact joinsAbove_of_apart sits canonical size leads under touch

end Above

variable {sentinel last : Address}

/-- A join below a block has lengthened the lower part of a circle by the block, or the last of the
blocks there has taken it in. -/
structure JoinsBelow (sentinel below : Address) (memory : Memory) (block : FreeBlock)
    (lower joined : List FreeBlock) (memoryAfter : Memory) : Prop where
  stem : Stem sentinel memoryAfter joined (memory.next block.header)
  free : freeUnits joined = freeUnits lower ∪ block.stretch
  listed : below ∈ sentinel :: joined.map FreeBlock.header
  under : ∀ upper, block.Under sentinel upper → ∀ other ∈ joined, other.Under sentinel upper
  frame : ∀ address, unitOf below ≠ unitOf address →
    memoryAfter.header address = memory.header address

section Below

variable {front : List FreeBlock} {below : FreeBlock} (sits : block.Sits sentinel)
  (size : memory.size block.header = block.units)

include sits size

/-- The sentinel takes in nothing. -/
theorem Stem.join_sentinel (stem : Stem sentinel memory [] last) :
    ∃ memoryAfter joined, joinBelow sentinel block.header memory = .ok () memoryAfter ∧
      JoinsBelow sentinel sentinel memory block [] joined memoryAfter := by
  have apart : memory.blockEnd sentinel ≠ block.header := by
    rw [Memory.blockEnd, stem.sentinelSize]
    show sentinel + unitBytes * 0 ≠ block.header
    rw [UInt64.mul_zero, UInt64.add_zero]
    exact Ne.symm sits.header_ne
  refine ⟨_, [block], joinBelow_of_apart apart, stem.link sits (List.forall_mem_nil _) size, ?_,
    List.mem_cons_self, fun upper above => List.forall_mem_singleton.mpr above, ?_⟩
  · exact Finset.union_comm _ _
  · intro address elsewhere
    exact (memory.header_setNext _ _ _).trans (if_neg elsewhere)

/-- The block below takes the block in. -/
theorem Stem.join_touch (stem : Stem sentinel memory (front ++ [below]) last)
    (touch : memory.blockEnd below.header = block.header) :
    ∃ memoryAfter joined, joinBelow below.header block.header memory = .ok () memoryAfter ∧
      JoinsBelow sentinel below.header memory block (front ++ [below]) joined memoryAfter := by
  have belowSits := stem.canonical.sits below (by simp)
  have separated := (List.pairwise_append.mp stem.canonical.separated).2.2
  have belowSize := stem.sizes below (by simp)
  have blockEnd : memory.blockEnd below.header = below.header.above below.units :=
    congrArg below.header.above belowSize
  obtain ⟨fits, joinedSits, joinedUnits⟩ := belowSits.join sits (blockEnd.symm.trans touch)
  have meet := (belowSits.touch_iff sits).mp (blockEnd.symm.trans touch)
  have sum : plus (memory.size below.header) (memory.size block.header) =
      .ok (below.units + block.units) := by
    rw [belowSize, size, plus_of_lt fits]
  refine ⟨_, front ++ [{ below with units := below.units + block.units }],
    joinBelow_of_touch touch sum, stem.absorb sits (blockEnd.symm.trans touch), ?_, ?_, ?_, ?_⟩
  · rw [freeUnits_append, freeUnits_append, freeUnits_cons, freeUnits_cons, joinedUnits,
      freeUnits_nil, Finset.union_empty, Finset.union_empty, Finset.union_assoc]
  · rw [List.map_append]
    exact List.mem_cons_of_mem _ (List.mem_append_right _ List.mem_cons_self)
  · intro upper above
    rw [List.forall_mem_append, List.forall_mem_singleton]
    unfold FreeBlock.Under at above separated ⊢
    refine ⟨fun other member => ?_, ?_⟩
    · have low := separated other member below List.mem_cons_self
      omega
    · show rank sentinel below.header + (below.units + block.units).toNat < _
      rw [toNat_add_of_lt fits]
      omega
  · intro address elsewhere
    rw [Memory.header_setNext, if_neg elsewhere, Memory.header_setSize, if_neg elsewhere]

/-- There is a gap below. -/
theorem Stem.join_apart (stem : Stem sentinel memory (front ++ [below]) last)
    (under : ∀ other ∈ front ++ [below],
      rank sentinel other.header + other.units.toNat ≤ rank sentinel block.header)
    (apart : memory.blockEnd below.header ≠ block.header) :
    ∃ memoryAfter joined, joinBelow below.header block.header memory = .ok () memoryAfter ∧
      JoinsBelow sentinel below.header memory block (front ++ [below]) joined memoryAfter := by
  have belowSits := stem.canonical.sits below (by simp)
  have separated := (List.pairwise_append.mp stem.canonical.separated).2.2
  have blockEnd : memory.blockEnd below.header = below.header.above below.units :=
    congrArg below.header.above (stem.sizes below (by simp))
  have strictly : ∀ other ∈ front ++ [below], other.Under sentinel block := by
    have last : below.Under sentinel block := by
      refine Nat.lt_of_le_of_ne (under below (by simp)) fun meet => apart ?_
      exact blockEnd.trans ((belowSits.touch_iff sits).mpr meet)
    rw [List.forall_mem_append, List.forall_mem_singleton]
    refine ⟨fun other member => ?_, last⟩
    have low := separated other member below List.mem_cons_self
    unfold FreeBlock.Under at low last ⊢
    omega
  have link := stem.link sits strictly size
  rw [getLastD_headers] at link
  refine ⟨_, _, joinBelow_of_apart apart, link, ?_, ?_, ?_, ?_⟩
  · rw [freeUnits_append _ [block], freeUnits_cons, freeUnits_nil, Finset.union_empty]
  · rw [List.map_append, List.map_append, List.append_assoc]
    exact List.mem_cons_of_mem _ (List.mem_append_right _ List.mem_cons_self)
  · intro upper above
    rw [List.forall_mem_append, List.forall_mem_singleton]
    refine ⟨fun other member => ?_, above⟩
    have low := strictly other member
    unfold FreeBlock.Under at low above ⊢
    omega
  · intro address elsewhere
    exact (memory.header_setNext _ _ _).trans (if_neg elsewhere)

theorem Stem.join (stem : Stem sentinel memory lower last)
    (under : ∀ other ∈ lower,
      rank sentinel other.header + other.units.toNat ≤ rank sentinel block.header) :
    ∃ memoryAfter joined,
      joinBelow ((lower.map FreeBlock.header).getLastD sentinel) block.header memory =
        .ok () memoryAfter ∧
      JoinsBelow sentinel ((lower.map FreeBlock.header).getLastD sentinel) memory block lower joined
        memoryAfter := by
  rcases List.eq_nil_or_concat' lower with rfl | ⟨front, below, rfl⟩
  · exact stem.join_sentinel sits size
  · rw [getLastD_headers]
    by_cases touch : memory.blockEnd below.header = block.header
    · exact stem.join_touch sits size touch
    · exact stem.join_apart sits size under touch

end Below

end JoinSpecs

/-! ### Tags -/

/-- A node from which links lead on is on the way, or it is the end. -/
theorem Leads.first_mem {memory : Memory} {first last : Address} {route : List Address}
    (leads : Leads memory first route last) : first ∈ route ++ [last] := by
  cases route with
  | nil => exact List.mem_singleton.mpr leads
  | cons node route => exact leads.1 ▸ List.mem_cons_self

section Tags

variable {memory memoryAfter : Memory} {block : FreeBlock} {sentinel below : Address} {units : Word}
  {lower upper joined rest : List FreeBlock}

/-- The link of the block leads to a node. -/
theorem JoinsAbove.next_aligned
    (joins : JoinsAbove sentinel memory block upper units rest memoryAfter) :
    16 ∣ (memoryAfter.next block.header).toNat := by
  refine joins.canonical.aligned_of_mem ?_
  have next := Leads.first_mem joins.leads
  rw [List.mem_append, List.mem_singleton] at next
  rw [List.map_cons]
  exact next.elim (fun later => List.mem_cons_of_mem _ (List.mem_cons_of_mem _ later))
    fun last => last ▸ List.mem_cons_self

theorem JoinsAbove.cleared (joins : JoinsAbove sentinel memory block upper units rest memoryAfter) :
    (memoryAfter.header block.header).isTagged = false :=
  Header.isTagged_eq_false joins.next_aligned

/-- So does the link of the node below it. -/
theorem JoinsBelow.cleared (joins : JoinsBelow sentinel below memory block lower joined memoryAfter)
    (aligned : 16 ∣ (memory.next block.header).toNat) :
    (memoryAfter.header below).isTagged = false := by
  refine Header.isTagged_eq_false (show 16 ∣ (memoryAfter.next below).toNat from ?_)
  have next := joins.stem.leads.next_mem joins.listed
  rw [List.cons_append, List.tail_cons, List.mem_append, List.mem_singleton] at next
  rcases next with listed | last
  · exact joins.stem.canonical.aligned_of_mem (List.mem_cons_of_mem _ listed)
  · exact last.symm ▸ aligned

end Tags

/-! ### The insertion -/

/-- The outcome of putting a block on a list that held some blocks in a memory. -/
structure Inserted (list : FreeList) (memory : Memory) (blocks : List FreeBlock)
    (block : FreeBlock) (after : FreeList) (memoryAfter : Memory) (blocksAfter : List FreeBlock) :
    Prop where
  holds : after.Holds memoryAfter blocksAfter
  sentinel_eq : after.sentinel = list.sentinel
  units : freeUnits blocksAfter = block.stretch ∪ freeUnits blocks
  /-- The rover is the last node that ranks below the block. -/
  rover : ∃ lower upper,
    Cuts list.sentinel (blocks.map FreeBlock.header) block.header lower upper ∧
      after.rover = lower.getLastD list.sentinel
  frame : ∀ address, unitOf address ≠ unitOf list.sentinel →
    unitOf address ∉ freeUnits blocksAfter → memoryAfter.header address = memory.header address
  tags : memory.TagsOnly memoryAfter ∅
  /-- The header of the block has lost its tag, even if a node below has taken the block in. -/
  cleared : (memoryAfter.header block.header).isTagged = false

/-- Whatever else is in memory, a list with a block put on it is the same list. -/
theorem Inserted.unique {list after otherAfter : FreeList}
    {memory memoryAfter other otherMemoryAfter : Memory}
    {blocks blocksAfter otherBlocksAfter : List FreeBlock} {block : FreeBlock}
    (inserted : Inserted list memory blocks block after memoryAfter blocksAfter)
    (otherInserted : Inserted list other blocks block otherAfter otherMemoryAfter
      otherBlocksAfter) : otherAfter = after := by
  obtain ⟨lower, upper, cuts, rover⟩ := inserted.rover
  obtain ⟨otherLower, otherUpper, otherCuts, otherRover⟩ := otherInserted.rover
  have root : otherAfter.sentinel = after.sentinel :=
    otherInserted.sentinel_eq.trans inserted.sentinel_eq.symm
  have stop : otherAfter.rover = after.rover := by
    rw [rover, otherRover, cuts.unique otherCuts]
  cases after
  cases otherAfter
  cases root
  cases stop
  rfl

theorem insert_of_steps {list : FreeList} {memory memoryBetween memoryAfter : Memory}
    {block below : Address} (some : memory.size block ≠ 0)
    (place : list.findPlace block memory = .ok below)
    (above : list.joinAbove block (memory.next below) memory = .ok () memoryBetween)
    (join : joinBelow below block memoryBetween = .ok () memoryAfter) :
    list.insert block memory = .ok { list with rover := below } memoryAfter := by
  unfold insert
  rw [get_bind, if_neg some, Surgery.ask_bind place, get_bind, bind_of_ok above, bind_of_ok join]
  rfl

/-- The nodes of the blocks below a block and above it are those that rank below and above it. -/
theorem cuts_of_ranks {sentinel : Address} {block : FreeBlock} {lower upper : List FreeBlock}
    (canonical : Canonical sentinel (lower ++ upper)) (sits : block.Sits sentinel)
    (below : ∀ other ∈ lower,
      rank sentinel other.header + other.units.toNat ≤ rank sentinel block.header)
    (above : ∀ other ∈ upper,
      rank sentinel block.header + block.units.toNat ≤ rank sentinel other.header) :
    Cuts sentinel ((lower ++ upper).map FreeBlock.header) block.header
      (lower.map FreeBlock.header) (upper.map FreeBlock.header) := by
  refine ⟨List.map_append, List.forall_mem_cons.mpr ⟨?_, ?_⟩, ?_⟩
  · rw [rank_self]
    exact sits.rank_pos
  · refine List.forall_mem_map.mpr fun other member => ?_
    have some := (canonical.sits other (List.mem_append_left _ member)).units_pos
    have low := below other member
    omega
  · refine List.forall_mem_map.mpr fun other member => ?_
    have some := sits.units_pos
    have high := above other member
    omega

/-- A block that sits beside the sentinel and has no unit in common with the free ones can be
put on the list. -/
theorem Holds.insert_spec {list : FreeList} {memory : Memory} {blocks : List FreeBlock}
    {block : FreeBlock} (holds : list.Holds memory blocks) (sits : block.Sits list.sentinel)
    (disjoint : Disjoint block.stretch (freeUnits blocks))
    (size : memory.size block.header = block.units) :
    ∃ after memoryAfter blocksAfter,
      list.insert block.header memory = .ok after memoryAfter ∧
      Inserted list memory blocks block after memoryAfter blocksAfter := by
  have canonical := holds.canonical
  obtain ⟨lower, upper, rfl, below, above⟩ := canonical.exists_split sits disjoint
  have cuts := cuts_of_ranks canonical sits below above
  -- Nothing of the old circle stands in the unit of the new header.
  have fresh : ∀ node ∈ list.sentinel :: (lower ++ upper).map FreeBlock.header,
      unitOf block.header ≠ unitOf node := fun node member same =>
    cuts.ne_of_mem member ((unitOf_inj sits.lies.aligned
      (canonical.aligned_of_mem member)).mp same)
  rw [List.map_append, ← List.cons_append] at fresh
  obtain ⟨middle, stem, fromMiddle⟩ := holds.exists_stem
  obtain ⟨joinedUnits, rest, memoryBetween, joinAbove, joinsAbove⟩ := joinAbove_spec sits
    (canonical.sublist (List.sublist_append_right lower upper)) size fromMiddle
    (fun other member => holds.sizes other (List.mem_append_right _ member)) above
  have stemBetween : Stem list.sentinel memoryBetween lower middle := stem.congr
    fun node member => joinsAbove.frame node (fresh node (List.mem_append_left _ member))
  have joinedSits := joinsAbove.canonical.sits _ List.mem_cons_self
  obtain ⟨memoryAfter, joined, joinBelow, joinsBelow⟩ :=
    stemBetween.join joinedSits joinsAbove.size below
  have restKept : ∀ other ∈ rest, memoryAfter.header other.header = memory.header other.header := by
    intro other member
    have listed : other.header ∈ upper.map FreeBlock.header :=
      List.mem_map_of_mem (joinsAbove.suffix.subset member)
    rw [joinsBelow.frame _ (unitOf_last_ne canonical _ listed),
      joinsAbove.frame _ (fresh _ (List.mem_append_right _ listed))]
  obtain ⟨under, -⟩ := List.pairwise_cons.mp joinsAbove.canonical.separated
  have restCanonical : Canonical list.sentinel rest :=
    joinsAbove.canonical.sublist (List.sublist_cons_self _ rest)
  have restLeads : Leads memoryAfter _ (rest.map FreeBlock.header) list.sentinel :=
    joinsAbove.leads.congr (List.forall_mem_map.mpr fun other member =>
      congrArg Header.next (restKept other member))
  have restSizes : ∀ other ∈ rest, memoryAfter.size other.header = other.units :=
    fun other member => (congrArg Header.size (restKept other member)).trans
      (holds.sizes other (List.mem_append_right _ (joinsAbove.suffix.subset member)))
  have free : freeUnits (joined ++ rest) = freeUnits lower ∪ (block.stretch ∪ freeUnits upper) := by
    rw [freeUnits_append, joinsBelow.free, Finset.union_assoc, ← freeUnits_cons, joinsAbove.free]
  refine ⟨_, memoryAfter, joined ++ rest, insert_of_steps (size ▸ sits.nonempty)
    (holds.findPlace_eq cuts sits.lies.aligned) (stem.next_last.symm ▸ joinAbove) joinBelow,
    joinsBelow.stem.close restCanonical (fun low member high later =>
      joinsBelow.under high (under high later) low member) restLeads restSizes joinsBelow.listed,
    rfl, ?_, ⟨_, _, cuts, rfl⟩, fun address notSentinel notFree => ?_, ?_, ?_⟩
  · rw [free, freeUnits_append, Finset.union_left_comm]
  · rw [free, Finset.mem_union, Finset.mem_union, not_or, not_or] at notFree
    rw [joinsBelow.frame, joinsAbove.frame]
    · intro same
      exact notFree.2.1 (same ▸ start_mem_stretch sits.nonempty)
    · intro same
      have last := unitOf_last stem.canonical
      rw [same] at last
      exact last.elim notSentinel notFree.1
  · exact (Memory.TagsOnly.of_frame joinsAbove.cleared joinsAbove.frame ∅).trans
      (Memory.TagsOnly.of_frame (joinsBelow.cleared joinsAbove.next_aligned) joinsBelow.frame ∅)
  · rw [joinsBelow.frame _ (Ne.symm (fresh _ (List.mem_append_left _ List.getLastD_mem_cons)))]
    exact joinsAbove.cleared

/-- Fresh memory is put on the list in the same way, whatever it held before. -/
theorem Holds.extend_spec {list : FreeList} {memory : Memory} {blocks : List FreeBlock}
    {block : FreeBlock} (holds : list.Holds memory blocks) (sits : block.Sits list.sentinel)
    (disjoint : Disjoint block.stretch (freeUnits blocks)) :
    ∃ after memoryAfter blocksAfter,
      list.extend block.header block.units memory = .ok after memoryAfter ∧
      Inserted list memory blocks block after memoryAfter blocksAfter := by
  have here : unitOf block.header ∈ block.stretch := start_mem_stretch sits.nonempty
  have kept : list.Holds (memory.setHeader block.header { next := 0, size := block.units })
      blocks := by
    refine holds.congr fun address inside => ?_
    rw [Memory.header_setHeader, if_neg]
    intro same
    rcases inside with sentinel | free
    · exact sits.apart (sentinel ▸ same ▸ here)
    · exact Finset.disjoint_left.mp disjoint here (same ▸ free)
  have size : (memory.setHeader block.header { next := 0, size := block.units }).size
      block.header = block.units := by
    rw [Memory.size, Memory.header_setHeader, if_pos rfl]
  obtain ⟨after, memoryAfter, blocksAfter, result, inserted⟩ :=
    kept.insert_spec sits disjoint size
  refine ⟨after, memoryAfter, blocksAfter, result, inserted.holds, inserted.sentinel_eq,
    inserted.units, inserted.rover, fun address notSentinel notFree => ?_, ?_, inserted.cleared⟩
  · rw [inserted.frame address notSentinel notFree, Memory.header_setHeader, if_neg]
    rw [inserted.units, Finset.mem_union, not_or] at notFree
    exact fun same => notFree.1 (same ▸ here)
  · have clear : ((memory.setHeader block.header { next := 0, size := block.units }).header
        block.header).isTagged = false := by
      rw [Memory.header_setHeader, if_pos rfl]
      rfl
    refine (Memory.TagsOnly.of_frame clear (fun address elsewhere => ?_) ∅).trans inserted.tags
    rw [Memory.header_setHeader, if_neg elsewhere]

end FreeList

end NextFit
