/-
This file proves what a search for a block does. It meets every node of the circle once,
the rover last, and so it fails just if every free block is too small; then nothing
changes. Otherwise some block gives up its top units or, if it has no others, leaves the
circle, and what remains is a canonical list of the other free units.
-/

import NextFit.Proofs.FreeList.Stem

namespace NextFit

namespace FreeList

variable {list : FreeList} {memory : Memory} {blocks : List FreeBlock} {wanted : Word}

/-- The outcome of taking some units off a list that held some blocks in a memory. -/
structure Taken (list : FreeList) (memory : Memory) (blocks : List FreeBlock) (wanted : Word)
    (header : Address) (after : FreeList) (memoryAfter : Memory) (blocksAfter : List FreeBlock) :
    Prop where
  holds : after.Holds memoryAfter blocksAfter
  sentinel_eq : after.sentinel = list.sentinel
  units : freeUnits blocksAfter = freeUnits blocks \ stretch header wanted
  /-- The units are the top of a block. -/
  top : ∃ block ∈ blocks, wanted ≤ block.units ∧
    header = block.header.above (block.units - wanted)
  size : memoryAfter.size header = wanted
  frame : ∀ address, unitOf address ≠ unitOf list.sentinel →
    unitOf address ∉ freeUnits blocks → memoryAfter.header address = memory.header address
  tags : memory.TagsOnly memoryAfter ∅

/-- The units that were taken lie in memory and were free. -/
theorem Taken.lies_and_subset {header : Address} {after : FreeList} {memoryAfter : Memory}
    {blocksAfter : List FreeBlock} (holds : list.Holds memory blocks) (nonzero : wanted ≠ 0)
    (taken : Taken list memory blocks wanted header after memoryAfter blocksAfter) :
    Lies header wanted ∧ stretch header wanted ⊆ freeUnits blocks := by
  obtain ⟨block, member, fits, rfl⟩ := taken.top
  obtain ⟨lies, subset⟩ := (holds.canonical.sits block member).top nonzero fits
  exact ⟨lies, fun unit inside => mem_freeUnits.mpr ⟨block, member, subset inside⟩⟩

/-! ### The search -/

/-- The order in which a search looks at the nodes of a circle: from the node after the rover on,
round the circle, to the rover. -/
def tour (rover : Address) (circle : List Address) : List Address :=
  circle.rotate (circle.idxOf rover + 1)

theorem tour_eq {rover : Address} {front back : List Address} (apart : rover ∉ front) :
    tour rover (front ++ rover :: back) = back ++ front ++ [rover] := by
  have index : (front ++ rover :: back).idxOf rover + 1 = (front ++ [rover]).length := by
    rw [List.idxOf_append_of_notMem apart, List.idxOf_cons_self, List.length_append]
    rfl
  rw [tour, index, List.append_cons, List.rotate_append_length_eq, List.append_assoc]

theorem mem_tour {rover node : Address} {circle : List Address} :
    node ∈ tour rover circle ↔ node ∈ circle :=
  List.mem_rotate

/-- The links lead along the tour, and the rover comes last. -/
theorem Holds.exists_tour (holds : list.Holds memory blocks) :
    ∃ route, tour list.rover (list.sentinel :: blocks.map FreeBlock.header) =
        route ++ [list.rover] ∧
      Leads memory (memory.next list.rover) route list.rover ∧ list.rover ∉ route ∧
      route.length = blocks.length := by
  obtain ⟨front, back, split⟩ := List.append_of_mem holds.rover
  have circle := holds.circle
  have nodup := holds.canonical.nodup
  have count := congrArg List.length split
  rw [split] at circle nodup
  rw [List.nodup_middle, List.nodup_cons, List.mem_append, not_or] at nodup
  rw [List.length_cons, List.length_map, List.length_append, List.length_cons] at count
  refine ⟨back ++ front, ?_, circle.rotate.2, fun member => ?_, ?_⟩
  · rw [split, tour_eq nodup.1.1]
  · exact (List.mem_append.mp member).elim nodup.1.2 nodup.1.1
  · rw [List.length_append]
    omega

/-- A route up to its end leads to each of its nodes. -/
theorem Leads.upTo {first last node : Address} {route front back : List Address}
    (leads : Leads memory first route last) (split : route ++ [last] = front ++ node :: back) :
    Leads memory first front node ∧ front <+: route := by
  rcases List.eq_nil_or_concat' back with rfl | ⟨back, end_, rfl⟩
  · obtain ⟨rfl, same⟩ := List.append_inj' split rfl
    rw [List.singleton_inj] at same
    exact ⟨same ▸ leads, List.prefix_rfl⟩
  · rw [← List.cons_append, ← List.append_assoc] at split
    obtain ⟨rfl, -⟩ := List.append_inj' split rfl
    exact ⟨(leads_split.mp leads).1, List.prefix_append _ _⟩

theorem Holds.size_lt (holds : list.Holds memory blocks) (nonzero : wanted ≠ 0)
    (small : ∀ block ∈ blocks, block.units < wanted) :
    ∀ node ∈ list.sentinel :: blocks.map FreeBlock.header, memory.size node < wanted := by
  rw [List.forall_mem_cons, List.forall_mem_map, holds.sentinelSize]
  refine ⟨UInt64.pos_iff_ne_zero.mpr nonzero, fun block member => ?_⟩
  rw [holds.sizes block member]
  exact small block member

/-- Some block is large enough, or every block is too small. -/
theorem large_or_small (blocks : List FreeBlock) (wanted : Word) :
    (∃ block ∈ blocks, wanted ≤ block.units) ∨ ∀ block ∈ blocks, block.units < wanted := by
  by_cases large : ∃ block ∈ blocks, wanted ≤ block.units
  · exact Or.inl large
  · exact Or.inr fun block member => UInt64.not_le.mp fun fits => large ⟨block, member, fits⟩

/-- If every free block is too small, the search looks at all nodes and finds none. -/
theorem Holds.fitAfter_none (holds : list.Holds memory blocks) (nonzero : wanted ≠ 0)
    (small : ∀ block ∈ blocks, block.units < wanted) (fuel : Nat) :
    fitAfter memory list.rover wanted fuel list.rover =
      if fuel ≤ blocks.length then .error .endlessWalk else .ok none := by
  obtain ⟨route, whole, leads, apart, length⟩ := holds.exists_tour
  have tooSmall : ∀ node ∈ route ++ [list.rover], memory.size node < wanted :=
    fun node member => holds.size_lt nonzero small node (mem_tour.mp (whole ▸ member))
  rw [List.forall_mem_append, List.forall_mem_singleton] at tooSmall
  rw [fitAfter_eq leads apart tooSmall.1 (Or.inr rfl), length,
    if_neg (UInt64.not_le.mpr tooSmall.2)]

/-- Then nothing changes. -/
theorem Holds.take_none (holds : list.Holds memory blocks) (nonzero : wanted ≠ 0)
    (small : ∀ block ∈ blocks, block.units < wanted) :
    list.take wanted memory = .ok (none, list) memory := by
  have bound := holds.canonical.length_lt
  have none : list.findFit wanted memory = .ok none := by
    rw [findFit, holds.fitAfter_none nonzero small, if_neg (by omega)]
  unfold take
  rw [if_neg nonzero, Surgery.ask_bind none]
  rfl

/-- The first node of a route that is large enough. -/
theorem exists_first_large {nodes : List Address} {candidate : Address}
    (member : candidate ∈ nodes) (large : wanted ≤ memory.size candidate) :
    ∃ node front back, nodes = front ++ node :: back ∧ wanted ≤ memory.size node ∧
      ∀ other ∈ front, memory.size other < wanted := by
  have found : (nodes.find? (wanted ≤ memory.size ·)).isSome :=
    List.find?_isSome.mpr ⟨candidate, member, decide_eq_true large⟩
  obtain ⟨node, here⟩ := Option.isSome_iff_exists.mp found
  obtain ⟨fits, front, back, split, before⟩ := List.find?_eq_some_iff_append.mp here
  refine ⟨node, front, back, split, of_decide_eq_true fits, fun other member => ?_⟩
  have tooSmall := before other member
  rw [Bool.not_eq_true', decide_eq_false_iff_not] at tooSmall
  exact UInt64.not_le.mp tooSmall

/-- The blocks before and after the one that follows a node of the circle. -/
theorem Holds.split_at_next (holds : list.Holds memory blocks) {previous : Address}
    (listed : previous ∈ list.sentinel :: blocks.map FreeBlock.header)
    (notSentinel : memory.next previous ≠ list.sentinel) :
    ∃ lower block upper, blocks = lower ++ block :: upper ∧
      block.header = memory.next previous ∧
      previous = (lower.map FreeBlock.header).getLastD list.sentinel := by
  obtain ⟨lowerNodes, upperNodes, parts, last⟩ := holds.circle.next_eq listed notSentinel
  obtain ⟨lower, above, rfl, rfl, aboveNodes⟩ := List.map_eq_append_iff.mp parts
  obtain ⟨block, upper, rfl, here, rfl⟩ := List.map_eq_cons_iff.mp aboveNodes
  exact ⟨lower, block, upper, rfl, here, last⟩

/-- A search passes over some nodes of its tour that are too small, and stops before the node that
comes next. It looks at each of these nodes once. -/
structure Passes (memory : Memory) (circle : List Address) (rover : Address) (wanted : Word)
    (previous chosen : Address) : Prop where
  tour_eq : ∃ passed rest, tour rover circle = passed ++ chosen :: rest ∧
    (∀ node ∈ passed, memory.size node < wanted) ∧
    ∀ fuel, fitAfter memory rover wanted fuel rover =
      if fuel ≤ passed.length then .error .endlessWalk else .ok (some previous)

/-- If some free block is large enough, the search finds the node before the first such block on
its tour. -/
theorem Holds.exists_passes (holds : list.Holds memory blocks) (nonzero : wanted ≠ 0)
    (large : ∃ block ∈ blocks, wanted ≤ block.units) :
    ∃ lower block upper, blocks = lower ++ block :: upper ∧ wanted ≤ block.units ∧
      Passes memory (list.sentinel :: blocks.map FreeBlock.header) list.rover wanted
        ((lower.map FreeBlock.header).getLastD list.sentinel) block.header := by
  obtain ⟨route, whole, leads, apart, length⟩ := holds.exists_tour
  obtain ⟨candidate, candidateMember, candidateLarge⟩ := large
  have onTour : candidate.header ∈ route ++ [list.rover] :=
    whole ▸ mem_tour.mpr (List.mem_cons_of_mem _ (List.mem_map_of_mem candidateMember))
  obtain ⟨node, front, back, split, nodeLarge, frontSmall⟩ :=
    exists_first_large onTour (holds.sizes candidate candidateMember ▸ candidateLarge)
  obtain ⟨toNode, part⟩ := Leads.upTo leads split
  have search := fitAfter_eq toNode (fun member => apart (part.subset member)) frontSmall
    (Or.inl nodeLarge)
  simp only [if_pos nodeLarge] at search
  obtain ⟨init, upToNode⟩ := exists_init list.rover front
  have next : memory.next (front.getLastD list.rover) = node := by
    have onward : Leads memory list.rover (list.rover :: front) node := ⟨rfl, toNode⟩
    rw [upToNode, leads_split] at onward
    exact onward.2
  have passed : front.getLastD list.rover ∈
      tour list.rover (list.sentinel :: blocks.map FreeBlock.header) := by
    rw [whole, List.mem_append, List.mem_singleton]
    rcases List.mem_cons.mp (List.getLastD_mem_cons (l := front) (a := list.rover)) with
      rover | earlier
    · exact Or.inr rover
    · exact Or.inl (part.subset earlier)
  have listed := mem_tour.mp passed
  have notSentinel : memory.next (front.getLastD list.rover) ≠ list.sentinel := by
    intro back
    rw [next.symm.trans back, holds.sentinelSize] at nodeLarge
    exact nonzero (UInt64.le_zero_iff.mp nodeLarge)
  obtain ⟨lower, block, upper, rfl, here, last⟩ := holds.split_at_next listed notSentinel
  rw [next] at here
  refine ⟨lower, block, upper, rfl, ?_, front, back, here ▸ whole.trans split, frontSmall,
    last ▸ search⟩
  rw [← holds.sizes block (by simp), here]
  exact nodeLarge

/-- Such a search does not take longer than the longest walk. -/
theorem Holds.findFit_of_passes {previous chosen : Address} (holds : list.Holds memory blocks)
    (passes : Passes memory (list.sentinel :: blocks.map FreeBlock.header) list.rover wanted
      previous chosen) :
    list.findFit wanted memory = .ok (some previous) := by
  have bound := holds.canonical.length_lt
  obtain ⟨passed, rest, whole, -, search⟩ := passes
  have count := congrArg List.length whole
  rw [tour, List.length_rotate, List.length_cons, List.length_map, List.length_append,
    List.length_cons] at count
  exact (search longestWalk).trans (if_neg (by omega))

/-! ### The block that is taken -/

theorem take_of_fit {previous : Address} (nonzero : wanted ≠ 0)
    (fit : list.findFit wanted memory = .ok (some previous)) :
    list.take wanted memory =
      .ok (some (cut previous wanted memory).1, { list with rover := previous })
        (cut previous wanted memory).2 := by
  unfold take
  rw [if_neg nonzero, Surgery.ask_bind fit]
  rfl

/-- Two memories in which the list holds the same blocks give up the same units. -/
theorem Holds.take_unique {other : Memory} (holds : list.Holds memory blocks)
    (otherHolds : list.Holds other blocks) (nonzero : wanted ≠ 0)
    (large : ∃ block ∈ blocks, wanted ≤ block.units) :
    ∃ header after memoryAfter otherAfter,
      list.take wanted memory = .ok (some header, after) memoryAfter ∧
      list.take wanted other = .ok (some header, after) otherAfter := by
  have same := holds.header_unique otherHolds
  obtain ⟨lower, block, upper, rfl, -, passes⟩ := holds.exists_passes nonzero large
  have fit := holds.findFit_of_passes passes
  have listed : (lower.map FreeBlock.header).getLastD list.sentinel ∈
      list.sentinel :: (lower ++ block :: upper).map FreeBlock.header := last_mem _ _
  have otherFit : list.findFit wanted other = list.findFit wanted memory :=
    fitAfter_congr (fun node => holds.next_mem) (fun node member => (same node member).1)
      (fun node member => (same node member).2) wanted longestWalk holds.rover
  have header : (cut ((lower.map FreeBlock.header).getLastD list.sentinel) wanted other).1 =
      (cut ((lower.map FreeBlock.header).getLastD list.sentinel) wanted memory).1 := by
    unfold cut
    rw [(same _ listed).1, (same _ (holds.next_mem listed)).2]
    split <;> rfl
  have otherResult := take_of_fit nonzero (otherFit.trans fit)
  rw [header] at otherResult
  exact ⟨_, _, _, _, take_of_fit nonzero fit, otherResult⟩

variable {lower upper : List FreeBlock} {block : FreeBlock}

/-- The units are cut off the block that follows the last of the lower nodes. -/
theorem Holds.cut_eq (holds : list.Holds memory (lower ++ block :: upper)) (wanted : Word) :
    cut ((lower.map FreeBlock.header).getLastD list.sentinel) wanted memory =
      if block.units = wanted then
        (block.header, memory.setNext ((lower.map FreeBlock.header).getLastD list.sentinel)
          (memory.next block.header))
      else
        (block.header.above (block.units - wanted),
          (memory.setSize block.header (block.units - wanted)).setSize
            (block.header.above (block.units - wanted)) wanted) := by
  unfold cut
  rw [holds.stem_below.1.next_last, holds.sizes block (by simp)]

/-- A block leaves the circle when the node below it is linked to the node above it. -/
theorem Holds.unlink (holds : list.Holds memory (lower ++ block :: upper)) :
    Holds { list with rover := (lower.map FreeBlock.header).getLastD list.sentinel }
      (memory.setNext ((lower.map FreeBlock.header).getLastD list.sentinel)
        (memory.next block.header))
      (lower ++ upper) := by
  have canonical := holds.canonical
  obtain ⟨-, upperSeparated, under⟩ := List.pairwise_append.mp canonical.separated
  obtain ⟨stem, leads⟩ := holds.stem_below
  have upperSublist : upper.Sublist (lower ++ block :: upper) :=
    (List.sublist_cons_self block upper).trans (List.sublist_append_right lower _)
  refine (stem.relink (memory.next block.header)).close (canonical.sublist upperSublist)
    (fun low member high later => under low member high (List.mem_cons_of_mem _ later))
    (leads.congr fun node member => ?_) (fun other member => ?_) List.getLastD_mem_cons
  · rw [Memory.next_setNext, if_neg (unitOf_last_ne canonical node ?_)]
    exact List.mem_cons_of_mem _ member
  · rw [Memory.size_setNext]
    exact holds.sizes other (upperSublist.subset member)

/-- A block keeps its place on the circle when it gives up its top units. -/
theorem Holds.shorten (holds : list.Holds memory (lower ++ block :: upper)) {lead : Word}
    (nonzero : lead ≠ 0) (inside : lead.toNat < block.units.toNat) :
    Holds { list with rover := (lower.map FreeBlock.header).getLastD list.sentinel }
      ((memory.setSize block.header lead).setSize (block.header.above lead) wanted)
      (lower ++ { block with units := lead } :: upper) := by
  have sits := holds.canonical.sits block (by simp)
  have others := holds.canonical.disjoint_others
  have place := sits.lies.unitOf_above inside
  have positive := toNat_pos_of_ne_zero nonzero
  have here : unitOf block.header ∈ block.stretch := start_mem_stretch sits.nonempty
  have there : unitOf (block.header.above lead) ∈ block.stretch := by
    rw [FreeBlock.stretch, mem_stretch]
    omega
  have elsewhere : ∀ unit ∈ block.stretch, ∀ other ∈ lower ++ upper,
      unit ≠ unitOf other.header := by
    intro unit member other otherMember same
    have listed : other ∈ lower ++ block :: upper :=
      (List.sublist_cons_self block upper).append_left lower |>.subset otherMember
    refine Finset.disjoint_left.mp others member (same ▸ ?_)
    exact mem_freeUnits.mpr ⟨other, otherMember,
      start_mem_stretch (holds.canonical.sits other listed).nonempty⟩
  have canonical := holds.canonical.shorten nonzero (Nat.le_of_lt inside)
  rw [List.append_cons] at holds canonical ⊢
  obtain ⟨middle, stem, leads⟩ := holds.exists_stem
  obtain ⟨-, -, under⟩ := List.pairwise_append.mp canonical.separated
  have shortened := stem.resize (canonical.sublist (List.sublist_append_left _ upper))
  -- The units that go get a header, too, but it is the header of no node.
  have kept : Stem list.sentinel
      ((memory.setSize block.header lead).setSize (block.header.above lead) wanted)
      (lower ++ [{ block with units := lead }]) middle := by
    refine shortened.congr fun node member => (Memory.header_setSize _ _ _ _).trans (if_neg ?_)
    rw [nodes_concat, List.mem_append, List.mem_cons, List.mem_singleton] at member
    rcases member with (rfl | listed) | rfl
    · exact fun same => sits.apart (same ▸ there)
    · obtain ⟨other, lowerMember, rfl⟩ := List.mem_map.mp listed
      exact elsewhere _ there other (List.mem_append_left _ lowerMember)
    · show unitOf _ ≠ unitOf block.header
      omega
  refine kept.close (canonical.sublist (List.sublist_append_right _ upper)) under
    (leads.congr fun node _ => ?_) (fun other member => ?_) ?_
  · rw [Memory.next_setSize, Memory.next_setSize]
  · rw [Memory.size_setSize, Memory.size_setSize,
      if_neg (elsewhere _ there other (List.mem_append_right _ member)),
      if_neg (elsewhere _ here other (List.mem_append_right _ member))]
    exact holds.sizes other (List.mem_append_right _ member)
  · rw [nodes_concat]
    exact List.mem_append_left _ List.getLastD_mem_cons

/-- A block that fits exactly is taken as it is. -/
theorem Holds.taken_whole (holds : list.Holds memory (lower ++ block :: upper)) :
    Taken list memory (lower ++ block :: upper) block.units block.header
      { list with rover := (lower.map FreeBlock.header).getLastD list.sentinel }
      (memory.setNext ((lower.map FreeBlock.header).getLastD list.sentinel)
        (memory.next block.header))
      (lower ++ upper) where
  holds := holds.unlink
  sentinel_eq := rfl
  units := by
    rw [freeUnits_middle]
    exact (Finset.union_sdiff_cancel_left holds.canonical.disjoint_others).symm
  top := by
    refine ⟨block, by simp, UInt64.le_refl _, ?_⟩
    rw [UInt64.sub_self, Address.above, UInt64.mul_zero, UInt64.add_zero]
  size := by
    rw [Memory.size_setNext]
    exact holds.sizes block (by simp)
  frame address notSentinel notFree := by
    rw [Memory.header_setNext, if_neg]
    intro same
    have below := unitOf_last holds.stem_below.1.canonical
    rw [same] at below
    rw [freeUnits_append, Finset.mem_union, not_or] at notFree
    exact below.elim notSentinel notFree.1
  tags := by
    refine Memory.TagsOnly.of_frame (Header.isTagged_eq_false ?_) (fun address elsewhere =>
      (memory.header_setNext _ _ _).trans (if_neg elsewhere)) ∅
    have listed : block.header ∈
        list.sentinel :: (lower ++ block :: upper).map FreeBlock.header := by simp
    have next := holds.next_mem listed
    rw [Memory.header_setNext, if_pos rfl]
    exact holds.canonical.aligned_of_mem next

/-- Any other block keeps its lower units. -/
theorem Holds.taken_top (holds : list.Holds memory (lower ++ block :: upper))
    (nonzero : wanted ≠ 0) (less : wanted < block.units) :
    Taken list memory (lower ++ block :: upper) wanted
      (block.header.above (block.units - wanted))
      { list with rover := (lower.map FreeBlock.header).getLastD list.sentinel }
      ((memory.setSize block.header (block.units - wanted)).setSize
        (block.header.above (block.units - wanted)) wanted)
      (lower ++ { block with units := block.units - wanted } :: upper) := by
  have listed : block ∈ lower ++ block :: upper := by simp
  have sits := holds.canonical.sits block listed
  have others := holds.canonical.disjoint_others
  have positive : 0 < wanted.toNat := toNat_pos_of_ne_zero nonzero
  have fewer : wanted.toNat < block.units.toNat := UInt64.lt_iff_toNat_lt.mp less
  have difference : (block.units - wanted).toNat = block.units.toNat - wanted.toNat :=
    UInt64.toNat_sub_of_le _ _ (UInt64.le_of_lt less)
  have remains : block.units - wanted ≠ 0 := by
    intro zero
    have none : (block.units - wanted).toNat = 0 := congrArg UInt64.toNat zero
    omega
  have inside : (block.units - wanted).toNat < block.units.toNat := by omega
  have parts : block.stretch = stretch block.header (block.units - wanted) ∪
      stretch (block.header.above (block.units - wanted)) wanted :=
    sits.lies.stretch_eq_union inside (by omega)
  have apart := sits.lies.disjoint_parts inside wanted
  have notHere : ∀ address, unitOf address ∉ freeUnits (lower ++ block :: upper) →
      unitOf address ∉ block.stretch :=
    fun _ notFree member => notFree (mem_freeUnits.mpr ⟨block, listed, member⟩)
  refine ⟨holds.shorten remains inside, rfl, ?_,
    ⟨block, listed, UInt64.le_of_lt less, rfl⟩, ?_, fun address _ notFree => ?_,
    (memory.tagsOnly_setSize _ _ ∅).trans (Memory.tagsOnly_setSize _ _ _ ∅)⟩
  · rw [parts, Finset.disjoint_union_left] at others
    rw [freeUnits_middle, freeUnits_middle, parts, Finset.union_right_comm,
      Finset.union_sdiff_right, Finset.union_sdiff_distrib,
      Finset.sdiff_eq_self_of_disjoint apart, Finset.sdiff_eq_self_of_disjoint others.2.symm]
    rfl
  · rw [Memory.size_setSize, if_pos rfl]
  · rw [Memory.header_setSize, if_neg, Memory.header_setSize, if_neg]
    · intro same
      exact notHere address notFree (same ▸ start_mem_stretch sits.nonempty)
    · intro same
      refine notHere address notFree ?_
      rw [← same, parts]
      exact Finset.mem_union_right _ (start_mem_stretch nonzero)

/-- If some free block is large enough, the units are the top of such a block, and the other
free units stay on the list. -/
theorem Holds.take_some {blocks : List FreeBlock} (holds : list.Holds memory blocks)
    (nonzero : wanted ≠ 0) (large : ∃ block ∈ blocks, wanted ≤ block.units) :
    ∃ header after memoryAfter blocksAfter,
      list.take wanted memory = .ok (some header, after) memoryAfter ∧
      Taken list memory blocks wanted header after memoryAfter blocksAfter := by
  obtain ⟨lower, block, upper, rfl, fits, passes⟩ := holds.exists_passes nonzero large
  have result := take_of_fit nonzero (holds.findFit_of_passes passes)
  rw [holds.cut_eq] at result
  by_cases exactly : block.units = wanted
  · subst exactly
    rw [if_pos rfl] at result
    exact ⟨_, _, _, _, result, holds.taken_whole⟩
  · rw [if_neg exactly] at result
    have less := UInt64.lt_of_le_of_ne fits fun same => exactly same.symm
    exact ⟨_, _, _, _, result, holds.taken_top nonzero less⟩

end FreeList

end NextFit
