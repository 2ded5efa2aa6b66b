/-
This file proves that a survey tells sound lists from all others. The list may have been put
together in any way, as long as a walk from the sentinel comes back to it. A survey compares
neighbours only. But if the address falls once round the circle, then along all other links
it rises, and blocks that do not reach their upper neighbours do not reach anything above
these either. So what holds of neighbours holds of any two blocks.
-/

import NextFit.Proofs.FreeList.Survey
import Mathlib.Data.List.Rotate

namespace NextFit

/-- The counts of a sound list. -/
theorem Defects.isSound_iff (defects : Defects) :
    defects.isSound = true ↔
      defects.overlaps = 0 ∧ defects.adjacents = 0 ∧ defects.descents ≤ 1 := by
  simp only [isSound, Bool.and_eq_true, beq_iff_eq, decide_eq_true_eq, and_assoc]

namespace FreeList

/-! ### Descents -/

section Descents

variable {first last : Address} {rest nodes : List Address} {order : Address → Address → Prop}

/-- If the address falls nowhere, all nodes are ordered as neighbours are. -/
theorem pairwise_of_no_descent [Trans order order order]
    (rises : ∀ link ∈ (first :: rest).zip (rest ++ [last]), descends link = false →
      order link.1 link.2)
    (none : ((first :: rest).zip (rest ++ [last])).countP descends = 0) :
    (first :: (rest ++ [last])).Pairwise order := by
  rw [← List.isChain_iff_pairwise]
  induction rest generalizing first with
  | nil =>
    rw [List.countP_eq_zero] at none
    have link : (first, last) ∈ [first].zip ([] ++ [last]) := List.mem_cons_self
    exact List.isChain_pair.mpr (rises _ link (Bool.eq_false_iff.mpr (none _ link)))
  | cons second rest inductionHypothesis =>
    rw [List.cons_append, List.zip_cons_cons] at rises none
    rw [List.forall_mem_cons] at rises
    rw [List.countP_cons, Nat.add_eq_zero_iff, ite_eq_right_iff] at none
    refine List.isChain_cons_cons.mpr
      ⟨rises.1 (Bool.eq_false_iff.mpr fun falls => absurd (none.2 falls) (by decide)),
        inductionHypothesis rises.2 none.1⟩

/-- If the address falls once at most, the nodes fall into two parts in which it rises. The lower
part comes last and goes on to where the nodes lead. -/
theorem exists_parts [Trans order order order]
    (rises : ∀ link ∈ (first :: rest).zip (rest ++ [last]), descends link = false →
      order link.1 link.2)
    (once : ((first :: rest).zip (rest ++ [last])).countP descends ≤ 1) :
    ∃ front back, rest = front ++ back ∧ (first :: front).Pairwise order ∧
      (back ++ [last]).Pairwise order := by
  induction rest generalizing first with
  | nil => exact ⟨[], [], rfl, List.pairwise_singleton _ _, List.pairwise_singleton _ _⟩
  | cons second rest inductionHypothesis =>
    rw [List.cons_append, List.zip_cons_cons] at rises once
    rw [List.forall_mem_cons] at rises
    rw [List.countP_cons] at once
    by_cases falls : descends (first, second) = true
    · rw [if_pos falls] at once
      exact ⟨[], second :: rest, rfl, List.pairwise_singleton _ _,
        pairwise_of_no_descent rises.2 (by omega)⟩
    · rw [if_neg falls] at once
      obtain ⟨front, back, rfl, frontOrder, backOrder⟩ := inductionHypothesis rises.2 once
      refine ⟨second :: front, back, rfl, ?_, backOrder⟩
      rw [← List.isChain_iff_pairwise] at frontOrder ⊢
      exact List.isChain_cons_cons.mpr ⟨rises.1 (Bool.eq_false_iff.mpr falls), frontOrder⟩

theorem descends_iff {previous next : Address} :
    descends (previous, next) = true ↔ next ≤ previous :=
  decide_eq_true_iff

/-- Among nodes in address order the address falls on the last link only, if it does there. -/
theorem countP_descends_of_pairwise (ascending : (first :: rest).Pairwise (· < ·)) :
    ((first :: rest).zip (rest ++ [last])).countP descends =
      if last ≤ rest.getLastD first then 1 else 0 := by
  induction rest generalizing first with
  | nil =>
    show [(first, last)].countP descends = _
    rw [List.countP_singleton]
    exact if_congr descends_iff rfl rfl
  | cons second rest inductionHypothesis =>
    rw [List.pairwise_cons] at ascending
    have rise := ascending.1 second List.mem_cons_self
    have climbs : ¬descends (first, second) = true := fun falls =>
      UInt64.not_le.mpr rise (descends_iff.mp falls)
    rw [List.cons_append, List.zip_cons_cons, List.countP_cons, inductionHypothesis ascending.2,
      List.getLastD_cons, if_neg climbs, Nat.add_zero]

/-- If the address falls once at most round a circle, some rotation of its nodes is in order. -/
theorem exists_rotation [Trans order order order] {list : FreeList}
    (rises : ∀ link ∈ list.links nodes, descends link = false → order link.1 link.2)
    (once : (list.links nodes).countP descends ≤ 1) :
    ∃ rotation : List Address, rotation.IsRotated (list.sentinel :: nodes) ∧
      rotation.Pairwise order := by
  obtain ⟨front, back, rfl, frontOrder, backOrder⟩ := exists_parts rises once
  refine ⟨back ++ list.sentinel :: front, List.isRotated_append, ?_⟩
  rw [List.pairwise_append] at backOrder ⊢
  refine ⟨backOrder.1, frontOrder, fun lower low upper high => ?_⟩
  have under := backOrder.2.2 lower low _ List.mem_cons_self
  rcases List.mem_cons.mp high with rfl | high
  · exact under
  · exact Trans.trans under ((List.pairwise_cons.mp frontOrder).1 upper high)

/-- A rotation in address order leaves one place at which the address may fall. -/
theorem countP_descends_le_one {list : FreeList} {rotation : List Address}
    (rotated : rotation.IsRotated (list.sentinel :: nodes))
    (ascending : rotation.Pairwise (· < ·)) : (list.links nodes).countP descends ≤ 1 := by
  obtain ⟨turn, within, rfl⟩ := List.isRotated_iff_mod.mp rotated.symm
  rw [List.rotate_eq_drop_append_take within] at ascending
  have whole := List.take_append_drop turn (list.sentinel :: nodes)
  cases turn with
  | zero =>
    rw [List.drop_zero, List.take_zero, List.append_nil] at ascending
    refine (countP_descends_of_pairwise ascending).trans_le ?_
    split <;> decide
  | succ turn =>
    rw [List.take_succ_cons, List.drop_succ_cons] at ascending
    have parts := List.take_append_drop turn nodes
    obtain ⟨backOrder, frontOrder, under⟩ := List.pairwise_append.mp ascending
    generalize nodes.take turn = front at ascending parts frontOrder under
    generalize nodes.drop turn = back at ascending parts backOrder under
    subst parts
    unfold links
    cases back with
    | nil =>
      rw [List.append_nil]
      refine (countP_descends_of_pairwise frontOrder).trans_le ?_
      split <;> decide
    | cons second back =>
      have split : (list.sentinel :: (front ++ second :: back)).zip
          (front ++ second :: back ++ [list.sentinel]) =
            (list.sentinel :: front).zip (front ++ [second]) ++
              (second :: back).zip (back ++ [list.sentinel]) := by
        rw [← List.zip_append (by simp)]
        simp
      rw [split, List.countP_append, countP_descends_of_pairwise frontOrder,
        countP_descends_of_pairwise backOrder,
        if_neg (UInt64.not_le.mpr (under _ List.getLastD_mem_cons _ List.mem_cons_self))]
      split <;> decide

end Descents

/-! ### Lists put together in any way -/

/-- A walk from the sentinel goes through the headers of the blocks and comes back to the sentinel.
The blocks may stand anywhere, in any order and with any units in common. Each of them has a unit
and ends below the last address, and their sizes add up to a word. -/
structure GoesRound (list : FreeList) (memory : Memory) (blocks : List FreeBlock) : Prop where
  circle : Leads memory list.sentinel (list.sentinel :: blocks.map FreeBlock.header) list.sentinel
  returns : list.sentinel ∉ blocks.map FreeBlock.header
  sizes : ∀ block ∈ blocks, memory.size block.header = block.units
  sentinelSize : memory.size list.sentinel = 0
  /-- A header can stand at every node. -/
  aligned : ∀ node ∈ list.sentinel :: blocks.map FreeBlock.header, 16 ∣ node.toNat
  nonempty : ∀ block ∈ blocks, block.units ≠ 0
  within : ∀ block ∈ blocks, block.header.toNat + 16 * block.units.toNat < 2 ^ 64
  fits : (blocks.map fun block => block.units.toNat).sum < 2 ^ 64

/-- What makes a circle of blocks sound: from some node on it is in address order, no unit is in two
blocks or in a block and under the sentinel, and no block ends where a block begins. -/
structure InOrder (sentinel : Address) (blocks : List FreeBlock) : Prop where
  ascending : ∃ rotation : List Address,
    rotation.IsRotated (sentinel :: blocks.map FreeBlock.header) ∧ rotation.Pairwise (· < ·)
  disjoint : ({unitOf sentinel} :: blocks.map FreeBlock.stretch).Pairwise Disjoint
  merged : ∀ lower ∈ blocks, ∀ upper ∈ blocks, lower.header.above lower.units ≠ upper.header

variable {list : FreeList} {memory : Memory} {blocks : List FreeBlock}

namespace GoesRound

variable (round : list.GoesRound memory blocks)

include round

theorem nodup : (list.sentinel :: blocks.map FreeBlock.header).Nodup :=
  List.nodup_cons.mpr ⟨round.returns, round.circle.2.nodup round.returns⟩

/-- There are fewer blocks than units in the address space. -/
theorem length_lt : blocks.length < longestWalk := by
  have units : ((list.sentinel :: blocks.map FreeBlock.header).map unitOf).Nodup :=
    round.nodup.map_on fun node member other otherMember same =>
      (unitOf_inj (round.aligned node member) (round.aligned other otherMember)).mp same
  have inside : (list.sentinel :: blocks.map FreeBlock.header).map unitOf ⊆
      List.range (2 ^ 60) := by
    intro unit member
    obtain ⟨node, -, rfl⟩ := List.mem_map.mp member
    exact List.mem_range.mpr (unitOf_lt node)
  have count := (List.subperm_of_subset units inside).length_le
  rw [List.length_map, List.length_cons, List.length_map, List.length_range] at count
  exact count

theorem nodes_eq : list.nodes memory = .ok (blocks.map FreeBlock.header) :=
  walk_eq round.circle.2 round.returns (by
    rw [List.length_map]
    exact round.length_lt)

end GoesRound

/-- A node ends below another one or where it begins, and if it ends there one of the two is the
sentinel. -/
structure ClearOf (list : FreeList) (memory : Memory) (lower upper : Address) : Prop where
  below : lower.toNat < upper.toNat
  le : lower.toNat + 16 * (memory.size lower).toNat ≤ upper.toNat
  apart : lower ≠ list.sentinel → upper ≠ list.sentinel →
    lower.toNat + 16 * (memory.size lower).toNat ≠ upper.toNat

/-- What is clear of a node is clear of all that lies above it. -/
instance (list : FreeList) (memory : Memory) :
    Trans (ClearOf list memory) (ClearOf list memory) (ClearOf list memory) where
  trans {lower middle upper} first second := by
    have below := first.le
    have above := second.below
    exact ⟨Nat.lt_trans first.below above, by omega, fun _ _ => by omega⟩

namespace GoesRound

variable (round : list.GoesRound memory blocks)

include round

/-- No node ends beyond the last address. -/
theorem toNat_blockEnd {node : Address}
    (member : node ∈ list.sentinel :: blocks.map FreeBlock.header) :
    (memory.blockEnd node).toNat = node.toNat + 16 * (memory.size node).toNat := by
  have bound := node.toNat_lt
  have zero : (0 : Word).toNat = 0 := rfl
  rw [Memory.blockEnd, toNat_above, Nat.mod_eq_of_lt]
  rcases List.mem_cons.mp member with rfl | listed
  · rw [round.sentinelSize, zero]
    exact bound
  · obtain ⟨block, here, rfl⟩ := List.mem_map.mp listed
    rw [round.sizes block here]
    exact round.within block here

/-- Along a link without a defect a node is clear of the next one. -/
theorem clearOf_of_link {link : Address × Address}
    (member : link ∈ list.links (blocks.map FreeBlock.header)) (rises : descends link = false)
    (noOverlap : ¬overlaps memory link = true) (noTouch : ¬list.touches memory link = true) :
    ClearOf list memory link.1 link.2 := by
  obtain ⟨previous, next⟩ := link
  have ends := round.toNat_blockEnd (List.of_mem_zip member).1
  have below : previous < next := UInt64.not_le.mp fun falls =>
    Bool.eq_false_iff.mp rises (descends_iff.mpr falls)
  simp only [overlaps, touches, below, decide_true, Bool.true_and, Bool.and_eq_true, beq_iff_eq,
    bne_iff_ne, decide_eq_true_eq, UInt64.lt_iff_toNat_lt, ends, Nat.not_lt] at noOverlap noTouch
  refine ⟨UInt64.lt_iff_toNat_lt.mp below, noOverlap, fun lower upper meet => noTouch ?_⟩
  exact ⟨⟨UInt64.toNat_inj.mp (ends.trans meet), lower⟩, upper⟩

/-- On a circle in which some rotation makes every node clear of the later ones, any two nodes are
clear of each other one way or the other. -/
theorem clear_or_clear {rotation : List Address}
    (rotated : rotation.IsRotated (list.sentinel :: blocks.map FreeBlock.header))
    (clear : rotation.Pairwise (ClearOf list memory)) {node other : Address}
    (member : node ∈ list.sentinel :: blocks.map FreeBlock.header)
    (otherMember : other ∈ list.sentinel :: blocks.map FreeBlock.header) (apart : node ≠ other) :
    (node.toNat = 16 * unitOf node ∧ other.toNat = 16 * unitOf other) ∧
      (ClearOf list memory node other ∨ ClearOf list memory other node) := by
  have symmetric : Std.Symm fun node other : Address =>
      ClearOf list memory node other ∨ ClearOf list memory other node := ⟨fun _ _ => Or.symm⟩
  have either : rotation.Pairwise fun node other =>
      ClearOf list memory node other ∨ ClearOf list memory other node := clear.imp Or.inl
  exact ⟨⟨toNat_eq_of_aligned (round.aligned node member),
    toNat_eq_of_aligned (round.aligned other otherMember)⟩,
    either.forall (rotated.mem_iff.mpr member) (rotated.mem_iff.mpr otherMember) apart⟩

/-- So the circle is sound. -/
theorem inOrder_of_clear {rotation : List Address}
    (rotated : rotation.IsRotated (list.sentinel :: blocks.map FreeBlock.header))
    (clear : rotation.Pairwise (ClearOf list memory)) : InOrder list.sentinel blocks := by
  have listed : ∀ block ∈ blocks, block.header ∈ list.sentinel :: blocks.map FreeBlock.header ∧
      block.header ≠ list.sentinel := fun block member =>
    ⟨List.mem_cons_of_mem _ (List.mem_map_of_mem member),
      fun same => round.returns (same ▸ List.mem_map_of_mem member)⟩
  refine ⟨⟨rotation, rotated, clear.imp fun clear => UInt64.lt_iff_toNat_lt.mpr clear.below⟩,
    List.pairwise_cons.mpr ⟨List.forall_mem_map.mpr fun block member => ?_,
      List.pairwise_map.mpr ?_⟩, fun lower lowerMember upper upperMember meet => ?_⟩
  · obtain ⟨here, apart⟩ := listed block member
    obtain ⟨places, clear⟩ := round.clear_or_clear rotated clear here List.mem_cons_self apart
    rw [Finset.disjoint_singleton_left, FreeBlock.stretch, mem_stretch, ← round.sizes block member]
    rcases clear with clear | clear
    · have le := clear.le
      omega
    · have below := clear.below
      omega
  · have distinct := List.pairwise_map.mp (List.nodup_cons.mp round.nodup).2
    refine distinct.imp_of_mem fun {lower upper} lowerMember upperMember apart => ?_
    obtain ⟨places, clear⟩ := round.clear_or_clear rotated clear (listed lower lowerMember).1
      (listed upper upperMember).1 apart
    rw [Finset.disjoint_left]
    intro unit inLower inUpper
    rw [FreeBlock.stretch, mem_stretch, ← round.sizes lower lowerMember] at inLower
    rw [FreeBlock.stretch, mem_stretch, ← round.sizes upper upperMember] at inUpper
    rcases clear with clear | clear
    · have le := clear.le
      omega
    · have le := clear.le
      omega
  · have within := round.within lower lowerMember
    have positive := toNat_pos_of_ne_zero (round.nonempty lower lowerMember)
    replace meet : lower.header.toNat + 16 * lower.units.toNat = upper.header.toNat := by
      rw [← meet, toNat_above, Nat.mod_eq_of_lt within]
    have apart : lower.header ≠ upper.header := fun same => by
      rw [same] at meet
      omega
    obtain ⟨-, clear⟩ := round.clear_or_clear rotated clear (listed lower lowerMember).1
      (listed upper upperMember).1 apart
    rcases clear with clear | clear
    · refine clear.apart (listed lower lowerMember).2 (listed upper upperMember).2 ?_
      rw [round.sizes lower lowerMember]
      exact meet
    · have below := clear.below
      omega

/-- On a sound circle no block reaches into the node that it leads to. -/
theorem not_overlaps (inOrder : InOrder list.sentinel blocks) {link : Address × Address}
    (member : link ∈ list.links (blocks.map FreeBlock.header)) : ¬overlaps memory link = true := by
  obtain ⟨previous, next⟩ := link
  obtain ⟨previousMember, nextMember⟩ := List.of_mem_zip member
  rw [overlaps, Bool.and_eq_true, decide_eq_true_eq, decide_eq_true_eq, UInt64.lt_iff_toNat_lt,
    UInt64.lt_iff_toNat_lt, round.toNat_blockEnd previousMember]
  rintro ⟨rises, inside⟩
  obtain ⟨sentinelApart, apart⟩ := List.pairwise_cons.mp inOrder.disjoint
  rcases List.mem_cons.mp previousMember with rfl | listed
  · have zero : (0 : Word).toNat = 0 := rfl
    rw [round.sentinelSize, zero] at inside
    omega
  obtain ⟨lower, lowerMember, rfl⟩ := List.mem_map.mp listed
  have here : unitOf next ∈ lower.stretch := by
    rw [round.sizes lower lowerMember] at inside
    have place := toNat_eq_of_aligned (round.aligned _ previousMember)
    rw [FreeBlock.stretch, mem_stretch]
    unfold unitOf at place ⊢
    omega
  rcases List.mem_append.mp nextMember with nextListed | root
  · obtain ⟨upper, upperMember, rfl⟩ := List.mem_map.mp nextListed
    have symmetric : Std.Symm fun block other : FreeBlock =>
      Disjoint block.stretch other.stretch := ⟨fun _ _ disjoint => disjoint.symm⟩
    have different : lower ≠ upper := fun same => by
      rw [same] at rises
      exact Nat.lt_irrefl _ rises
    have disjoint := (List.pairwise_map.mp apart).forall lowerMember upperMember different
    exact Finset.disjoint_left.mp disjoint here
      (start_mem_stretch (round.nonempty upper upperMember))
  · rw [List.mem_singleton.mp root] at here
    exact Finset.disjoint_singleton_left.mp
      (sentinelApart _ (List.mem_map_of_mem lowerMember)) here

/-- Nor does it end there, unless one of the two is the sentinel. -/
theorem not_touches (inOrder : InOrder list.sentinel blocks) {link : Address × Address}
    (member : link ∈ list.links (blocks.map FreeBlock.header)) :
    ¬list.touches memory link = true := by
  obtain ⟨previous, next⟩ := link
  obtain ⟨previousMember, nextMember⟩ := List.of_mem_zip member
  simp only [touches, Bool.and_eq_true, decide_eq_true_eq, beq_iff_eq, bne_iff_ne]
  rintro ⟨⟨⟨-, meet⟩, notRoot⟩, nextNotRoot⟩
  obtain ⟨lower, lowerMember, rfl⟩ :=
    List.mem_map.mp ((List.mem_cons.mp previousMember).resolve_left notRoot)
  obtain ⟨upper, upperMember, rfl⟩ := List.mem_map.mp
    ((List.mem_append.mp nextMember).resolve_right fun root =>
      nextNotRoot (List.mem_singleton.mp root))
  rw [Memory.blockEnd, round.sizes lower lowerMember] at meet
  exact inOrder.merged lower lowerMember upper upperMember meet

/-- The counts of a survey are within their bounds just if the circle is sound. -/
theorem isSound_iff :
    (list.defectsOf memory (blocks.map FreeBlock.header)).isSound = true ↔
      InOrder list.sentinel blocks := by
  rw [Defects.isSound_iff, defectsOf, List.countP_eq_zero, List.countP_eq_zero]
  constructor
  · rintro ⟨noOverlap, noTouch, once⟩
    obtain ⟨rotation, rotated, clear⟩ := exists_rotation (fun link member rises =>
      round.clearOf_of_link member rises (noOverlap link member) (noTouch link member)) once
    exact round.inOrder_of_clear rotated clear
  · intro inOrder
    obtain ⟨rotation, rotated, ascending⟩ := inOrder.ascending
    exact ⟨fun _ => round.not_overlaps inOrder, fun _ => round.not_touches inOrder,
      countP_descends_le_one rotated ascending⟩

omit round in
/-- Round any circle the address falls somewhere. -/
theorem one_le_descents (list : FreeList) (memory : Memory) (nodes : List Address) :
    1 ≤ (list.defectsOf memory nodes).descents := by
  refine Nat.one_le_iff_ne_zero.mpr fun none => ?_
  have rises : ∀ link ∈ list.links nodes, descends link = false → link.1 < link.2 :=
    fun link _ rises => UInt64.not_le.mp fun falls =>
      Bool.eq_false_iff.mp rises (descends_iff.mpr falls)
  have ascending := pairwise_of_no_descent rises none
  exact UInt64.lt_irrefl _ ((List.pairwise_cons.mp ascending).1 list.sentinel
    (List.mem_append_right _ List.mem_cons_self))

/-- There is no free block just if the sentinel leads to itself. -/
theorem isEmpty_iff : list.isEmpty memory = true ↔ blocks.length = 0 := by
  have leads := round.circle.2
  rw [isEmpty, beq_iff_eq, List.length_eq_zero_iff]
  cases blocks with
  | nil => exact ⟨fun _ => rfl, fun _ => leads⟩
  | cons first rest =>
    have start : first.header = memory.next list.sentinel := leads.1
    refine ⟨fun empty => ?_, fun none => by cases none⟩
    exact absurd (start.trans empty ▸ List.mem_cons_self) round.returns

/-- A survey of a list that a walk goes round is an exact check, whether the list is sound or was
forged: the counts are within their bounds just if the circle is in order. The address falls
somewhere in any case, and the totals are those of the blocks that the walk meets. -/
theorem survey_decides :
    ∃ survey, list.survey memory = .ok survey ∧ list.blocks memory = .ok blocks ∧
      (survey.defects.isSound = true ↔ InOrder list.sentinel blocks) ∧
      1 ≤ survey.defects.descents ∧
      list.length memory = .ok survey.totals.length ∧
      survey.totals.units.toNat = (blocks.map fun block => block.units.toNat).sum ∧
      (list.isEmpty memory = true ↔ survey.totals.length = 0) := by
  obtain ⟨units, surveyed, value⟩ := survey_of_nodes round.nodes_eq round.sizes round.fits
  refine ⟨_, surveyed, blocks_of_nodes round.nodes_eq round.sizes, round.isSound_iff,
    one_le_descents _ _ _, ?_, value, round.isEmpty_iff⟩
  rw [length, round.nodes_eq]
  exact congrArg Except.ok (List.length_map FreeBlock.header)

end GoesRound

/-- A forged list of two blocks, of which the lower one reaches into the upper one. The survey finds
it out, and nothing else is wrong with it. -/
theorem survey_decides_forged :
    ∃ list memory, GoesRound list memory
        [{ header := 8208, units := 4 }, { header := 8256, units := 2 }] ∧
      list.survey memory = .ok
        { defects := { overlaps := 1, adjacents := 0, descents := 1 }
          totals := { length := 2, units := 6 } } ∧
      ¬InOrder list.sentinel [{ header := 8208, units := 4 }, { header := 8256, units := 2 }] := by
  obtain ⟨list, memory, round, surveyed⟩ :
      ∃ list memory, GoesRound list memory
          [{ header := 8208, units := 4 }, { header := 8256, units := 2 }] ∧
        list.survey memory = .ok
          { defects := { overlaps := 1, adjacents := 0, descents := 1 }
            totals := { length := 2, units := 6 } } := by
    refine ⟨{ sentinel := 8192, rover := 8192 },
      (((({} : Memory).setHeader 8192 { next := 8208 }).setHeader 8208
        { next := 8256, size := 4 }).setHeader 8256 { next := 8192, size := 2 }),
      ⟨⟨rfl, rfl, rfl, rfl⟩, by decide, by decide +kernel, rfl, ?_, by decide, by decide,
        by decide⟩, rfl⟩
    exact List.forall_mem_cons.mpr ⟨by decide,
      List.forall_mem_cons.mpr ⟨by decide, List.forall_mem_singleton.mpr (by decide)⟩⟩
  obtain ⟨survey, result, -, sound, -⟩ := round.survey_decides
  rw [surveyed] at result
  cases result
  exact ⟨list, memory, round, surveyed, fun inOrder => by cases sound.mpr inOrder⟩

end FreeList

end NextFit
