/-
This file proves what a survey finds on a sound free list. Every link of the circle leads
to a node of higher rank or back to the sentinel. So no block reaches into the next one,
no two of them touch, and the address falls once: where the blocks above the sentinel end
or, if there are no blocks below it, on the way back to it.
-/

import NextFit.FreeList.Survey
import NextFit.Proofs.FreeList.Canonical

namespace NextFit

namespace FreeList

variable {list : FreeList} {memory : Memory} {blocks : List FreeBlock}

/-! ### Links -/

/-- A link leads to a later node, or from the last node back to the end. -/
theorem mem_zip_ring {order : Address → Address → Prop} {first last previous next : Address}
    {rest : List Address} (ordered : (first :: rest).Pairwise order)
    (member : (previous, next) ∈ (first :: rest).zip (rest ++ [last])) :
    previous ∈ first :: rest ∧ (next ∈ rest ∧ order previous next ∨ next = last) := by
  induction rest generalizing first with
  | nil =>
    obtain ⟨rfl, rfl⟩ := Prod.mk.inj (List.mem_singleton.mp member)
    exact ⟨List.mem_cons_self, Or.inr rfl⟩
  | cons second rest inductionHypothesis =>
    rw [List.pairwise_cons] at ordered
    rw [List.cons_append, List.zip_cons_cons, List.mem_cons, Prod.mk.injEq] at member
    rcases member with ⟨rfl, rfl⟩ | later
    · exact ⟨List.mem_cons_self, Or.inl ⟨List.mem_cons_self, ordered.1 _ List.mem_cons_self⟩⟩
    · obtain ⟨listed, target⟩ := inductionHypothesis ordered.2 later
      exact ⟨List.mem_cons_of_mem _ listed,
        target.imp_left fun ⟨later, above⟩ => ⟨List.mem_cons_of_mem _ later, above⟩⟩

/-- Each node of a sound list lies in memory with its size and leaves out the sentinel. -/
theorem Holds.node_lies (holds : list.Holds memory blocks) {node : Address}
    (member : node ∈ list.sentinel :: blocks.map FreeBlock.header) :
    Lies node (memory.size node) ∧ unitOf list.sentinel ∉ stretch node (memory.size node) := by
  rcases List.mem_cons.mp member with rfl | listed
  · rw [holds.sentinelSize, mem_stretch]
    exact ⟨holds.canonical.sentinelLies.mono (Nat.zero_le _), fun inside =>
      Nat.not_lt_of_le inside.1 inside.2⟩
  · obtain ⟨block, blockMember, rfl⟩ := List.mem_map.mp listed
    have sits := holds.canonical.sits block blockMember
    rw [holds.sizes block blockMember]
    exact ⟨sits.lies, sits.apart⟩

/-- Round the circle from the sentinel on every node ends below the later ones, with a gap in
between. -/
theorem Holds.nodes_separated (holds : list.Holds memory blocks) :
    (list.sentinel :: blocks.map FreeBlock.header).Pairwise fun lower upper =>
      rank list.sentinel lower + (memory.size lower).toNat < rank list.sentinel upper := by
  rw [List.pairwise_cons, List.forall_mem_map, List.pairwise_map]
  constructor
  · intro block member
    rw [rank_self, holds.sentinelSize]
    exact (holds.canonical.sits block member).rank_pos
  · refine holds.canonical.separated.imp_of_mem fun {lower upper} member _ under => ?_
    rw [holds.sizes lower member]
    exact under

/-- Along a link on which the address rises a node ends below the next one, or the next one is
the sentinel and it ends there at the latest. -/
theorem Holds.link_apart (holds : list.Holds memory blocks) {previous next : Address}
    (member : (previous, next) ∈ list.links (blocks.map FreeBlock.header))
    (rises : previous < next) :
    (memory.blockEnd previous).toNat ≤ next.toNat ∧
      (next ≠ list.sentinel → memory.blockEnd previous ≠ next) := by
  obtain ⟨listed, target⟩ := mem_zip_ring holds.nodes_separated member
  obtain ⟨lies, apart⟩ := holds.node_lies listed
  have bound := unitOf_lt list.sentinel
  have within := lies.unitOf_add_le
  have place := lies.toNat_eq
  have sentinelPlace := holds.canonical.sentinelLies.toNat_eq
  rw [UInt64.lt_iff_toNat_lt] at rises
  rw [Memory.blockEnd, ne_eq, ne_eq, ← UInt64.toNat_inj, ← UInt64.toNat_inj, toNat_above]
  rw [mem_stretch] at apart
  rcases target with ⟨nextListed, under⟩ | rfl
  · have nextPlace := toNat_eq_of_aligned
      (holds.canonical.aligned_of_mem (List.mem_cons_of_mem _ nextListed))
    have nextBound := unitOf_lt next
    unfold rank at under
    omega
  · omega

/-! ### Descents -/

/-- From a node on, the address falls once round to the sentinel if the node is not below the
sentinel, and never if it is. -/
theorem countP_descends {sentinel first : Address} {rest : List Address}
    (aligned : ∀ node ∈ sentinel :: first :: rest, 16 ∣ node.toNat)
    (ranks : (first :: rest).Pairwise fun lower upper =>
      rank sentinel lower < rank sentinel upper) :
    ((first :: rest).zip (rest ++ [sentinel])).countP descends =
      if unitOf sentinel ≤ unitOf first then 1 else 0 := by
  have bound := unitOf_lt sentinel
  induction rest generalizing first with
  | nil =>
    have falls : descends (first, sentinel) = decide (unitOf sentinel ≤ unitOf first) := by
      rw [descends, decide_eq_decide, ← UInt64.not_lt,
        lt_iff_unitOf_lt (aligned first (by simp)) (aligned sentinel (by simp)), Nat.not_lt]
    rw [List.nil_append, List.zip_cons_cons, List.zip_nil_right, List.countP_singleton, falls]
    simp only [decide_eq_true_eq]
  | cons second rest inductionHypothesis =>
    rw [List.pairwise_cons] at ranks
    have rises := ranks.1 second List.mem_cons_self
    have firstBound := unitOf_lt first
    have secondBound := unitOf_lt second
    have falls : descends (first, second) = decide (unitOf second ≤ unitOf first) := by
      rw [descends, decide_eq_decide, ← UInt64.not_lt,
        lt_iff_unitOf_lt (aligned first (by simp)) (aligned second (by simp)), Nat.not_lt]
    rw [List.cons_append, List.zip_cons_cons, List.countP_cons,
      inductionHypothesis (fun node member => aligned node (by
        rw [List.mem_cons] at member ⊢
        exact member.imp_right (List.mem_cons_of_mem _))) ranks.2, falls]
    simp only [decide_eq_true_eq]
    unfold rank at rises
    split <;> split <;> split <;> omega

/-- A sound list has no defects: nothing overlaps, nothing was left unmerged, and the address
falls once. -/
theorem Holds.defectsOf_eq (holds : list.Holds memory blocks) :
    list.defectsOf memory (blocks.map FreeBlock.header) =
      { overlaps := 0, adjacents := 0, descents := 1 } := by
  have noOverlap : (list.links (blocks.map FreeBlock.header)).countP (overlaps memory) = 0 := by
    rw [List.countP_eq_zero]
    intro link member overlap
    rw [overlaps, Bool.and_eq_true, decide_eq_true_eq, decide_eq_true_eq] at overlap
    have ends := (holds.link_apart member overlap.1).1
    have inside := UInt64.lt_iff_toNat_lt.mp overlap.2
    omega
  have noTouch : (list.links (blocks.map FreeBlock.header)).countP (list.touches memory) = 0 := by
    rw [List.countP_eq_zero]
    intro link member touch
    simp only [touches, Bool.and_eq_true, decide_eq_true_eq, beq_iff_eq, bne_iff_ne] at touch
    exact (holds.link_apart member touch.1.1.1).2 touch.2 touch.1.1.2
  have falls : (list.links (blocks.map FreeBlock.header)).countP descends = 1 := by
    refine (countP_descends ?_ holds.canonical.ranks).trans (if_pos (Nat.le_refl _))
    intro node member
    rw [List.mem_cons, ← or_self (node = list.sentinel)] at member
    exact holds.canonical.aligned_of_mem (List.mem_cons.mpr (by
      rw [List.mem_cons] at member
      tauto))
  rw [defectsOf, noOverlap, noTouch, falls]

/-! ### Totals -/

/-- Words whose sum fits add up to it. -/
theorem foldlM_plus {headers : List Address} {start : Word}
    (fits : start.toNat + (headers.map fun header => (memory.size header).toNat).sum < 2 ^ 64) :
    ∃ sum, headers.foldlM (fun sum header => plus sum (memory.size header)) start = .ok sum ∧
      sum.toNat = start.toNat + (headers.map fun header => (memory.size header).toNat).sum := by
  induction headers generalizing start with
  | nil => exact ⟨start, rfl, rfl⟩
  | cons header headers inductionHypothesis =>
    rw [List.map_cons, List.sum_cons, ← Nat.add_assoc] at fits ⊢
    have first : start.toNat + (memory.size header).toNat < 2 ^ 64 := by omega
    rw [← toNat_add_of_lt first] at fits ⊢
    obtain ⟨sum, result, value⟩ := inductionHypothesis fits
    refine ⟨sum, ?_, value⟩
    rw [List.foldlM_cons, plus_of_lt first]
    exact result

/-- A survey of the nodes that the walk meets, if their sizes add up to a word. -/
theorem survey_of_nodes (walked : list.nodes memory = .ok (blocks.map FreeBlock.header))
    (sizes : ∀ block ∈ blocks, memory.size block.header = block.units)
    (fits : (blocks.map fun block => block.units.toNat).sum < 2 ^ 64) :
    ∃ units : Word, list.survey memory = .ok
        { defects := list.defectsOf memory (blocks.map FreeBlock.header)
          totals := { length := blocks.length, units } } ∧
      units.toNat = (blocks.map fun block => block.units.toNat).sum := by
  have same : (blocks.map FreeBlock.header).map (fun header => (memory.size header).toNat) =
      blocks.map fun block => block.units.toNat := by
    rw [List.map_map]
    refine List.map_congr_left fun block member => ?_
    exact congrArg UInt64.toNat (sizes block member)
  have zero : (0 : Word).toNat = 0 := rfl
  rw [← same, ← Nat.zero_add (List.sum _), ← zero] at fits
  obtain ⟨units, result, value⟩ := foldlM_plus fits
  rw [same, zero, Nat.zero_add] at value
  refine ⟨units, ?_, value⟩
  rw [survey, walked]
  show (do
    let totals ← totalsOf memory (blocks.map FreeBlock.header)
    return ({ defects := list.defectsOf memory (blocks.map FreeBlock.header),
              totals } : Survey)) = _
  rw [totalsOf, result, List.length_map]
  rfl

/-- The survey of a sound list depends on its free units and the number of its blocks only. -/
theorem Holds.survey_eq (holds : list.Holds memory blocks) :
    list.survey memory = .ok
      { defects := { overlaps := 0, adjacents := 0, descents := 1 }
        totals := { length := blocks.length, units := (freeUnits blocks).card.toUInt64 } } := by
  have bound := holds.canonical.card_add_two_le
  have count := holds.canonical.card_freeUnits
  obtain ⟨units, surveyed, value⟩ := survey_of_nodes holds.nodes_eq holds.sizes (by omega)
  have same : units = (freeUnits blocks).card.toUInt64 := by
    rw [count, ← value]
    exact UInt64.ofNat_toNat.symm
  rw [surveyed, holds.defectsOf_eq, same]

end FreeList

end NextFit
