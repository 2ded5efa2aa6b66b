/-
This file says what the blocks of a sound free list look like. They are ranked by their
addresses as seen from the sentinel, and between any two of them there is a gap, so that
each is a maximal run of free units. The set of free units therefore determines the
blocks and their order. The file ends with the relation between a free list, the memory
and the blocks that it holds there.
-/

import NextFit.Proofs.Circle
import NextFit.Proofs.Stretch
import Mathlib.Algebra.BigOperators.Group.List.Basic

namespace NextFit

/-- The units of a free block. -/
def FreeBlock.stretch (block : FreeBlock) : Finset Nat :=
  NextFit.stretch block.header block.units

/-- The units of some free blocks. -/
def freeUnits (blocks : List FreeBlock) : Finset Nat :=
  covered (blocks.map FreeBlock.stretch)

theorem mem_freeUnits {blocks : List FreeBlock} {unit : Nat} :
    unit ∈ freeUnits blocks ↔ ∃ block ∈ blocks, unit ∈ block.stretch := by
  simp only [freeUnits, mem_covered, List.mem_map, exists_exists_and_eq_and]

theorem freeUnits_nil : freeUnits [] = ∅ := rfl

theorem freeUnits_cons (block : FreeBlock) (blocks : List FreeBlock) :
    freeUnits (block :: blocks) = block.stretch ∪ freeUnits blocks := rfl

theorem freeUnits_append (front back : List FreeBlock) :
    freeUnits (front ++ back) = freeUnits front ∪ freeUnits back := by
  rw [freeUnits, List.map_append, covered_append]
  rfl

theorem freeUnits_middle (lower : List FreeBlock) (block : FreeBlock) (upper : List FreeBlock) :
    freeUnits (lower ++ block :: upper) = block.stretch ∪ freeUnits (lower ++ upper) := by
  rw [freeUnits_append, freeUnits_cons, freeUnits_append, Finset.union_left_comm]

theorem disjoint_freeUnits {units : Finset Nat} {blocks : List FreeBlock} :
    Disjoint units (freeUnits blocks) ↔ ∀ block ∈ blocks, Disjoint units block.stretch := by
  rw [freeUnits, disjoint_covered, List.forall_mem_map]

/-! ### Blocks beside a sentinel -/

namespace FreeBlock

/-- A block that a list with the given sentinel can have: it lies in memory, has at least one
unit, and leaves out the unit of the sentinel. -/
structure Sits (sentinel : Address) (block : FreeBlock) : Prop where
  /-- It lies in memory. -/
  lies : Lies block.header block.units
  /-- It has at least one unit. -/
  nonempty : block.units ≠ 0
  /-- It leaves out the unit of the sentinel. -/
  apart : unitOf sentinel ∉ block.stretch

/-- A block ends below another one, and between the two there is a gap. -/
def Under (sentinel : Address) (lower upper : FreeBlock) : Prop :=
  rank sentinel lower.header + lower.units.toNat < rank sentinel upper.header

variable {sentinel : Address} {block other lower upper : FreeBlock}

theorem Sits.units_pos (sits : block.Sits sentinel) : 0 < block.units.toNat :=
  toNat_pos_of_ne_zero sits.nonempty

theorem Sits.rank_pos (sits : block.Sits sentinel) : 0 < rank sentinel block.header :=
  (rank_add_le sits.lies sits.apart sits.nonempty).1

theorem Sits.rank_add_le (sits : block.Sits sentinel) :
    rank sentinel block.header + block.units.toNat ≤ 2 ^ 60 :=
  (NextFit.rank_add_le sits.lies sits.apart sits.nonempty).2

theorem Sits.header_ne (sits : block.Sits sentinel) : block.header ≠ sentinel := by
  intro same
  have positive := sits.rank_pos
  rw [same, rank_self] at positive
  exact Nat.lt_irrefl 0 positive

/-- Of two blocks without a common unit, one ends where or before the other begins. -/
theorem Sits.le_or_le (sits : block.Sits sentinel) (otherSits : other.Sits sentinel)
    (disjoint : Disjoint block.stretch other.stretch) :
    rank sentinel block.header + block.units.toNat ≤ rank sentinel other.header ∨
      rank sentinel other.header + other.units.toNat ≤ rank sentinel block.header := by
  have bound := unitOf_lt sentinel
  have within := sits.lies.unitOf_add_le
  have otherWithin := otherSits.lies.unitOf_add_le
  have notHere := Finset.disjoint_left.mp disjoint (start_mem_stretch sits.nonempty)
  have notThere := Finset.disjoint_right.mp disjoint (start_mem_stretch otherSits.nonempty)
  have some := sits.units_pos
  have otherSome := otherSits.units_pos
  have apart := sits.apart
  have otherApart := otherSits.apart
  rw [stretch, mem_stretch] at notHere notThere apart otherApart
  unfold rank
  omega

/-- Blocks of which one ends where or before the other begins have no common unit. -/
theorem Sits.disjoint_of_le (sits : lower.Sits sentinel) (upperSits : upper.Sits sentinel)
    (le : rank sentinel lower.header + lower.units.toNat ≤ rank sentinel upper.header) :
    Disjoint lower.stretch upper.stretch := by
  have bound := unitOf_lt sentinel
  have within := sits.lies.unitOf_add_le
  have upperWithin := upperSits.lies.unitOf_add_le
  have apart := sits.apart
  have upperApart := upperSits.apart
  rw [Finset.disjoint_left]
  intro unit member upperMember
  rw [stretch, mem_stretch] at member upperMember apart upperApart
  unfold rank at le
  omega

/-- Two blocks touch in memory just if they do on the line of ranks. -/
theorem Sits.touch_iff (sits : lower.Sits sentinel) (upperSits : upper.Sits sentinel) :
    lower.header.above lower.units = upper.header ↔
      rank sentinel lower.header + lower.units.toNat = rank sentinel upper.header := by
  have bound := unitOf_lt sentinel
  have within := sits.lies.unitOf_add_le
  have upperWithin := upperSits.lies.unitOf_add_le
  have some := sits.units_pos
  have upperSome := upperSits.units_pos
  have positive := upperSits.lies.unitOf_pos
  have apart := sits.apart
  have upperApart := upperSits.apart
  rw [stretch, mem_stretch] at apart upperApart
  rw [sits.lies.above_eq_iff upperSits.lies]
  unfold rank
  omega

/-- A block together with the one that it touches. -/
theorem Sits.join (sits : lower.Sits sentinel) (upperSits : upper.Sits sentinel)
    (touch : lower.header.above lower.units = upper.header) :
    lower.units.toNat + upper.units.toNat < 2 ^ 64 ∧
      Sits sentinel { lower with units := lower.units + upper.units } ∧
      stretch { lower with units := lower.units + upper.units } =
        lower.stretch ∪ upper.stretch := by
  have place := (sits.lies.above_eq_iff upperSits.lies).mp touch
  have within := upperSits.lies.unitOf_add_le
  have start := sits.lies.toNat_eq
  have fits : lower.units.toNat + upper.units.toNat < 2 ^ 64 := by omega
  have sum := toNat_add_of_lt fits
  have units : stretch { lower with units := lower.units + upper.units } =
      lower.stretch ∪ upper.stretch := by
    ext unit
    simp only [stretch, Finset.mem_union, mem_stretch, sum]
    omega
  refine ⟨fits, ⟨⟨sits.lies.aligned, sits.lies.notNull, ?_⟩, fun zero => ?_, ?_⟩, units⟩
  · show lower.header.toNat + 16 * (lower.units + upper.units).toNat ≤ 2 ^ 64
    omega
  · have positive := sits.units_pos
    have empty : (lower.units + upper.units).toNat = 0 := congrArg UInt64.toNat zero
    omega
  · rw [units, Finset.mem_union]
    exact not_or.mpr ⟨sits.apart, upperSits.apart⟩

/-- The lower part of a block. -/
theorem Sits.shorten (sits : block.Sits sentinel) {fewer : Word}
    (le : fewer.toNat ≤ block.units.toNat) (some : fewer ≠ 0) :
    Sits sentinel { block with units := fewer } where
  lies := sits.lies.mono le
  nonempty := some
  apart := by
    have apart := sits.apart
    simp only [stretch, mem_stretch] at apart ⊢
    omega

/-- The upper part of a block. -/
theorem Sits.top (sits : block.Sits sentinel) {wanted : Word} (nonzero : wanted ≠ 0)
    (fits : wanted ≤ block.units) :
    Lies (block.header.above (block.units - wanted)) wanted ∧
      NextFit.stretch (block.header.above (block.units - wanted)) wanted ⊆ block.stretch := by
  have positive : 0 < wanted.toNat := toNat_pos_of_ne_zero nonzero
  have difference : (block.units - wanted).toNat = block.units.toNat - wanted.toNat :=
    UInt64.toNat_sub_of_le _ _ fits
  have enough := UInt64.le_iff_toNat_le.mp fits
  have parts : block.stretch = NextFit.stretch block.header (block.units - wanted) ∪
      NextFit.stretch (block.header.above (block.units - wanted)) wanted :=
    sits.lies.stretch_eq_union (by omega) (by omega)
  refine ⟨sits.lies.above (by omega) (by omega), ?_⟩
  rw [parts]
  exact Finset.subset_union_right

end FreeBlock

/-! ### Canonical lists of blocks -/

/-- The blocks are those of a sound list with the given sentinel: each of them sits beside it,
and they are ranked with gaps in between. -/
structure Canonical (sentinel : Address) (blocks : List FreeBlock) : Prop where
  /-- The sentinel takes one unit of memory. -/
  sentinelLies : Lies sentinel 1
  /-- Every block sits beside the sentinel. -/
  sits : ∀ block ∈ blocks, block.Sits sentinel
  /-- Every block ends below the later ones, and does not touch them. -/
  separated : blocks.Pairwise (FreeBlock.Under sentinel)

namespace Canonical

variable {sentinel : Address} {blocks : List FreeBlock} {block other : FreeBlock}

theorem sublist (canonical : Canonical sentinel blocks) {fewer : List FreeBlock}
    (sublist : fewer.Sublist blocks) : Canonical sentinel fewer where
  sentinelLies := canonical.sentinelLies
  sits block member := canonical.sits block (sublist.subset member)
  separated := canonical.separated.sublist sublist

theorem pairwise_disjoint (canonical : Canonical sentinel blocks) :
    (blocks.map FreeBlock.stretch).Pairwise Disjoint := by
  rw [List.pairwise_map]
  exact canonical.separated.imp_of_mem fun {lower upper} lowerMember upperMember under =>
    (canonical.sits lower lowerMember).disjoint_of_le (canonical.sits upper upperMember)
      (Nat.le_of_lt under)

/-- Two blocks of the list are the same, or one is under the other. -/
theorem eq_or_under (canonical : Canonical sentinel blocks) (member : block ∈ blocks)
    (otherMember : other ∈ blocks) :
    block = other ∨ block.Under sentinel other ∨ other.Under sentinel block := by
  by_contra apart
  rw [not_or, not_or] at apart
  obtain ⟨index, bound, rfl⟩ := List.getElem_of_mem member
  obtain ⟨otherIndex, otherBound, rfl⟩ := List.getElem_of_mem otherMember
  have ordered := List.pairwise_iff_getElem.mp canonical.separated
  rcases Nat.lt_trichotomy index otherIndex with less | rfl | more
  · exact apart.2.1 (ordered index otherIndex bound otherBound less)
  · exact apart.1 rfl
  · exact apart.2.2 (ordered otherIndex index otherBound bound more)

theorem sentinel_notMem (canonical : Canonical sentinel blocks) :
    unitOf sentinel ∉ freeUnits blocks := by
  rw [mem_freeUnits]
  rintro ⟨block, member, inside⟩
  exact (canonical.sits block member).apart inside

theorem card_freeUnits (canonical : Canonical sentinel blocks) :
    (freeUnits blocks).card = (blocks.map fun block => block.units.toNat).sum := by
  rw [freeUnits, card_covered canonical.pairwise_disjoint, List.map_map]
  exact congrArg List.sum (List.map_congr_left fun block _ => card_stretch _ _)

/-- The free units and the sentinel fit in the address space, in which no header stands at the
null address. -/
theorem card_add_two_le (canonical : Canonical sentinel blocks) :
    (freeUnits blocks).card + 2 ≤ 2 ^ 60 := by
  have bound := unitOf_lt sentinel
  have positive := canonical.sentinelLies.unitOf_pos
  have inside : insert (unitOf sentinel) (freeUnits blocks) ⊆ Finset.Ico 1 (2 ^ 60) := by
    intro unit member
    rw [Finset.mem_Ico]
    rcases Finset.mem_insert.mp member with rfl | member
    · exact ⟨positive, bound⟩
    · obtain ⟨block, listed, here⟩ := mem_freeUnits.mp member
      have sits := canonical.sits block listed
      have within := sits.lies.unitOf_add_le
      have start := sits.lies.unitOf_pos
      rw [FreeBlock.stretch, mem_stretch] at here
      omega
  have count := Finset.card_le_card inside
  rw [Finset.card_insert_of_notMem canonical.sentinel_notMem, Nat.card_Ico] at count
  omega

theorem length_lt (canonical : Canonical sentinel blocks) : blocks.length + 1 < longestWalk := by
  have sum := canonical.card_add_two_le
  rw [canonical.card_freeUnits] at sum
  have count := List.length_le_sum_of_one_le (blocks.map fun block => block.units.toNat)
    (List.forall_mem_map.mpr fun block member => (canonical.sits block member).units_pos)
  rw [List.length_map] at count
  show blocks.length + 1 < 2 ^ 60
  omega

/-- Round the circle from the sentinel on the ranks go up. -/
theorem ranks (canonical : Canonical sentinel blocks) :
    (sentinel :: blocks.map FreeBlock.header).Pairwise fun lower upper =>
      rank sentinel lower < rank sentinel upper := by
  rw [List.pairwise_cons, List.forall_mem_map, List.pairwise_map]
  constructor
  · intro block member
    rw [rank_self]
    exact (canonical.sits block member).rank_pos
  · exact canonical.separated.imp fun under => Nat.lt_of_le_of_lt (Nat.le_add_right _ _) under

/-- The nodes of the circle are all different. -/
theorem nodup (canonical : Canonical sentinel blocks) :
    (sentinel :: blocks.map FreeBlock.header).Nodup :=
  canonical.ranks.imp fun less same => Nat.ne_of_lt less (congrArg (rank sentinel) same)

theorem aligned_of_mem (canonical : Canonical sentinel blocks) {node : Address}
    (member : node ∈ sentinel :: blocks.map FreeBlock.header) : 16 ∣ node.toNat := by
  rcases List.mem_cons.mp member with rfl | member
  · exact canonical.sentinelLies.aligned
  · obtain ⟨block, listed, rfl⟩ := List.mem_map.mp member
    exact (canonical.sits block listed).lies.aligned

theorem unitOf_mem_freeUnits (canonical : Canonical sentinel blocks) {node : Address}
    (member : node ∈ blocks.map FreeBlock.header) : unitOf node ∈ freeUnits blocks := by
  obtain ⟨block, listed, rfl⟩ := List.mem_map.mp member
  exact mem_freeUnits.mpr ⟨block, listed, start_mem_stretch (canonical.sits block listed).nonempty⟩

/-- The units of one block of the list are none of the others. -/
theorem disjoint_others {lower upper : List FreeBlock}
    (canonical : Canonical sentinel (lower ++ block :: upper)) :
    Disjoint block.stretch (freeUnits (lower ++ upper)) := by
  have apart := canonical.pairwise_disjoint
  rw [List.map_append, List.map_cons, List.pairwise_middle (fun apart => apart.symm),
    ← List.map_append, List.pairwise_cons] at apart
  exact disjoint_covered.mpr apart.1

/-- A block can give up its top units. -/
theorem shorten {lower upper : List FreeBlock}
    (canonical : Canonical sentinel (lower ++ block :: upper)) {fewer : Word}
    (nonzero : fewer ≠ 0) (le : fewer.toNat ≤ block.units.toNat) :
    Canonical sentinel (lower ++ { block with units := fewer } :: upper) := by
  obtain ⟨sentinelLies, allSit, separated⟩ := canonical
  rw [List.forall_mem_append, List.forall_mem_cons] at allSit
  rw [List.pairwise_append, List.pairwise_cons] at separated
  obtain ⟨lowerSeparated, ⟨under, upperSeparated⟩, lowerUnder⟩ := separated
  refine ⟨sentinelLies, ?_, ?_⟩
  · rw [List.forall_mem_append, List.forall_mem_cons]
    exact ⟨allSit.1, allSit.2.1.shorten le nonzero, allSit.2.2⟩
  · rw [List.pairwise_append, List.pairwise_cons]
    refine ⟨lowerSeparated, ⟨fun other member => ?_, upperSeparated⟩, fun other low => ?_⟩
    · exact Nat.lt_of_le_of_lt (Nat.add_le_add_left le _) (under other member)
    · obtain ⟨underBlock, underUpper⟩ := List.forall_mem_cons.mp (lowerUnder other low)
      exact List.forall_mem_cons.mpr ⟨underBlock, underUpper⟩

/-- Different nodes of the circle stand in different units. -/
theorem unitOf_ne (canonical : Canonical sentinel blocks) :
    ∀ node ∈ sentinel :: blocks.map FreeBlock.header,
      ∀ other ∈ sentinel :: blocks.map FreeBlock.header,
        node ≠ other → unitOf node ≠ unitOf other :=
  fun _ member _ otherMember apart same => apart
    ((unitOf_inj (canonical.aligned_of_mem member) (canonical.aligned_of_mem otherMember)).mp same)

/-- A node has a unit of its own. -/
theorem unitOf_ne_of_split (canonical : Canonical sentinel blocks) {front back : List Address}
    {node : Address} (split : sentinel :: blocks.map FreeBlock.header = front ++ node :: back) :
    ∀ other ∈ front ++ back, unitOf node ≠ unitOf other := by
  have nodup := canonical.nodup
  have units := canonical.unitOf_ne
  rw [split] at nodup units
  rw [List.nodup_middle, List.nodup_cons] at nodup
  intro other member
  refine units _ (by simp) _ ?_ fun same => nodup.1 (same ▸ member)
  simp only [List.mem_append, List.mem_cons] at member ⊢
  exact member.imp_right Or.inr

/-- The place of a new block among the blocks of the list. -/
theorem exists_split (canonical : Canonical sentinel blocks) (sits : block.Sits sentinel)
    (disjoint : Disjoint block.stretch (freeUnits blocks)) :
    ∃ lower upper, blocks = lower ++ upper ∧
      (∀ other ∈ lower,
        rank sentinel other.header + other.units.toNat ≤ rank sentinel block.header) ∧
      ∀ other ∈ upper,
        rank sentinel block.header + block.units.toNat ≤ rank sentinel other.header := by
  obtain ⟨sentinelLies, allSit, separated⟩ := canonical
  induction blocks with
  | nil => exact ⟨[], [], rfl, by simp, by simp⟩
  | cons first rest inductionHypothesis =>
    rw [List.forall_mem_cons] at allSit
    rw [List.pairwise_cons] at separated
    rw [freeUnits_cons, Finset.disjoint_union_right] at disjoint
    rcases sits.le_or_le allSit.1 disjoint.1 with below | above
    · refine ⟨[], first :: rest, rfl, by simp, fun other member => ?_⟩
      rcases List.mem_cons.mp member with rfl | later
      · exact below
      · have under := separated.1 other later
        unfold FreeBlock.Under at under
        omega
    · obtain ⟨lower, upper, rfl, lowerBelow, upperAbove⟩ :=
        inductionHypothesis disjoint.2 allSit.2 separated.2
      exact ⟨first :: lower, upper, rfl, List.forall_mem_cons.mpr ⟨above, lowerBelow⟩, upperAbove⟩

/-- In list order the blocks above the sentinel come first, in address order, and the blocks
below it follow, in address order as well. -/
theorem exists_halves (canonical : Canonical sentinel blocks) :
    ∃ above below, blocks = above ++ below ∧
      (∀ block ∈ above, sentinel < block.header) ∧
      (∀ block ∈ below, block.header < sentinel) ∧
      (above.map FreeBlock.header).Pairwise (· < ·) ∧
      (below.map FreeBlock.header).Pairwise (· < ·) := by
  obtain ⟨sentinelLies, sits, separated⟩ := canonical
  have bound := unitOf_lt sentinel
  have order : ∀ lower upper : FreeBlock, lower.Sits sentinel → upper.Sits sentinel →
      lower.Under sentinel upper →
      (lower.header < sentinel → upper.header < sentinel ∧ lower.header < upper.header) ∧
        (sentinel < lower.header → sentinel < upper.header → lower.header < upper.header) := by
    intro lower upper lowerSits upperSits under
    have lowerBound := unitOf_lt lower.header
    have upperBound := unitOf_lt upper.header
    rw [lt_iff_unitOf_lt lowerSits.lies.aligned sentinelLies.aligned,
      lt_iff_unitOf_lt upperSits.lies.aligned sentinelLies.aligned,
      lt_iff_unitOf_lt sentinelLies.aligned lowerSits.lies.aligned,
      lt_iff_unitOf_lt sentinelLies.aligned upperSits.lies.aligned,
      lt_iff_unitOf_lt lowerSits.lies.aligned upperSits.lies.aligned]
    unfold FreeBlock.Under rank at under
    omega
  induction blocks with
  | nil => exact ⟨[], [], rfl, by simp, by simp, List.Pairwise.nil, List.Pairwise.nil⟩
  | cons first rest inductionHypothesis =>
    rw [List.forall_mem_cons] at sits
    rw [List.pairwise_cons] at separated
    have fromFirst := fun other member =>
      order first other sits.1 (sits.2 other member) (separated.1 other member)
    by_cases high : sentinel < first.header
    · obtain ⟨above, below, rfl, aboveHigh, belowLow, aboveOrder, belowOrder⟩ :=
        inductionHypothesis sits.2 separated.2
      refine ⟨first :: above, below, rfl, List.forall_mem_cons.mpr ⟨high, aboveHigh⟩, belowLow,
        ?_, belowOrder⟩
      rw [List.map_cons, List.pairwise_cons, List.forall_mem_map]
      exact ⟨fun other member => (fromFirst other (List.mem_append_left _ member)).2 high
        (aboveHigh other member), aboveOrder⟩
    · have low : first.header < sentinel :=
        UInt64.lt_of_le_of_ne (UInt64.not_lt.mp high) sits.1.header_ne
      refine ⟨[], first :: rest, rfl, by simp,
        List.forall_mem_cons.mpr ⟨low, fun other member => ((fromFirst other member).1 low).1⟩,
        List.Pairwise.nil, ?_⟩
      rw [List.map_cons, List.pairwise_cons, List.forall_mem_map, List.pairwise_map]
      refine ⟨fun other member => ((fromFirst other member).1 low).2, ?_⟩
      refine separated.2.imp_of_mem fun {lower upper} lowerMember upperMember under => ?_
      exact ((order lower upper (sits.2 lower lowerMember) (sits.2 upper upperMember) under).1
        ((fromFirst lower lowerMember).1 low).1).2

end Canonical

/-! ### Runs of units -/

/-- A block is a run of some units: they are consecutive, and neither the unit before them nor
the one after them belongs to the units. -/
structure FreeBlock.IsRun (units : Finset Nat) (block : FreeBlock) : Prop where
  /-- The block lies in memory. -/
  lies : Lies block.header block.units
  /-- It has at least one unit. -/
  nonempty : block.units ≠ 0
  /-- All its units belong to the units. -/
  inside : block.stretch ⊆ units
  /-- The unit before it does not. -/
  before : unitOf block.header - 1 ∉ units
  /-- The unit after it does not. -/
  after : unitOf block.header + block.units.toNat ∉ units

namespace Canonical

variable {sentinel : Address} {blocks others : List FreeBlock} {block : FreeBlock}

theorem isRun_of_mem (canonical : Canonical sentinel blocks) (member : block ∈ blocks) :
    block.IsRun (freeUnits blocks) := by
  have sits := canonical.sits block member
  have bound := unitOf_lt sentinel
  have within := sits.lies.unitOf_add_le
  have positive := sits.lies.unitOf_pos
  have some := sits.units_pos
  have apart := sits.apart
  rw [FreeBlock.stretch, mem_stretch] at apart
  have gap : ∀ unit, unit + 1 = unitOf block.header ∨
      unit = unitOf block.header + block.units.toNat → unit ∉ freeUnits blocks := by
    intro unit beside inside
    obtain ⟨other, otherMember, here⟩ := mem_freeUnits.mp inside
    have otherSits := canonical.sits other otherMember
    have otherWithin := otherSits.lies.unitOf_add_le
    have otherApart := otherSits.apart
    rw [FreeBlock.stretch, mem_stretch] at here otherApart
    rcases canonical.eq_or_under member otherMember with rfl | under | under
    · omega
    · unfold FreeBlock.Under rank at under
      omega
    · unfold FreeBlock.Under rank at under
      omega
  exact ⟨sits.lies, sits.nonempty, fun unit inside => mem_freeUnits.mpr ⟨block, member, inside⟩,
    gap _ (Or.inl (by omega)), gap _ (Or.inr rfl)⟩

/-- The blocks of the list are the runs of its units. -/
theorem mem_iff_isRun (canonical : Canonical sentinel blocks) :
    block ∈ blocks ↔ block.IsRun (freeUnits blocks) := by
  refine ⟨canonical.isRun_of_mem, fun run => ?_⟩
  have some := toNat_pos_of_ne_zero run.nonempty
  have positive := run.lies.unitOf_pos
  obtain ⟨other, member, here⟩ :=
    mem_freeUnits.mp (run.inside (start_mem_stretch run.nonempty))
  have otherRun := canonical.isRun_of_mem member
  have before : unitOf block.header - 1 ∉ other.stretch := fun inside =>
    run.before (otherRun.inside inside)
  have after : unitOf block.header + block.units.toNat ∉ other.stretch := fun inside =>
    run.after (otherRun.inside inside)
  have otherAfter : unitOf other.header + other.units.toNat ∉ block.stretch := fun inside =>
    otherRun.after (run.inside inside)
  rw [FreeBlock.stretch, mem_stretch] at here before after otherAfter
  have sameHeader : block.header = other.header :=
    (unitOf_inj run.lies.aligned otherRun.lies.aligned).mp (by omega)
  have sameUnits : block.units = other.units := UInt64.toNat_inj.mp (by omega)
  have same : block = other := by
    cases block
    cases other
    simp_all only
  exact same ▸ member

/-- Blocks of the list with a common unit are the same. -/
theorem eq_of_mem_stretch (canonical : Canonical sentinel blocks) {other : FreeBlock}
    (member : block ∈ blocks) (otherMember : other ∈ blocks) {unit : Nat}
    (here : unit ∈ block.stretch) (there : unit ∈ other.stretch) : block = other := by
  have sits := canonical.sits block member
  have otherSits := canonical.sits other otherMember
  rcases canonical.eq_or_under member otherMember with same | under | under
  · exact same
  · exact absurd there (Finset.disjoint_left.mp
      (sits.disjoint_of_le otherSits (Nat.le_of_lt under)) here)
  · exact absurd here (Finset.disjoint_left.mp
      (otherSits.disjoint_of_le sits (Nat.le_of_lt under)) there)

/-- Some consecutive free units are all in one block. -/
theorem exists_superset (canonical : Canonical sentinel blocks) {start : Address} {units : Word}
    (nonzero : units ≠ 0) (free : NextFit.stretch start units ⊆ freeUnits blocks) :
    ∃ block ∈ blocks, NextFit.stretch start units ⊆ block.stretch := by
  obtain ⟨block, member, here⟩ := mem_freeUnits.mp (free (start_mem_stretch nonzero))
  refine ⟨block, member, fun unit inside => ?_⟩
  have after := (canonical.isRun_of_mem member).after
  rw [FreeBlock.stretch, mem_stretch] at here ⊢
  rw [mem_stretch] at inside
  refine ⟨by omega, Nat.lt_of_not_le fun beyond => after (free ?_)⟩
  rw [mem_stretch]
  omega

/-- A block that has no unit in common with units that were added was there before. -/
theorem mem_of_disjoint (canonical : Canonical sentinel blocks)
    (othersCanonical : Canonical sentinel others) {units : Finset Nat}
    (sum : freeUnits blocks = units ∪ freeUnits others) (member : block ∈ blocks)
    (apart : Disjoint block.stretch units) : block ∈ others := by
  have run := canonical.isRun_of_mem member
  have before := run.before
  have after := run.after
  rw [sum, Finset.mem_union, not_or] at before after
  refine othersCanonical.mem_iff_isRun.mpr ⟨run.lies, run.nonempty, fun unit inside => ?_,
    before.2, after.2⟩
  have free := run.inside inside
  rw [sum, Finset.mem_union] at free
  exact free.resolve_left (Finset.disjoint_left.mp apart inside)

/-- The set of free units determines the blocks and their order. -/
theorem eq_of_freeUnits_eq (canonical : Canonical sentinel blocks)
    (othersCanonical : Canonical sentinel others) (same : freeUnits blocks = freeUnits others) :
    blocks = others := by
  have nodup : ∀ {list : List FreeBlock}, Canonical sentinel list → list.Nodup :=
    fun listCanonical => (List.nodup_cons.mp listCanonical.nodup).2.of_map
  refine List.Perm.eq_of_pairwise ?_ canonical.separated othersCanonical.separated ?_
  · intro lower upper _ _ under above
    unfold FreeBlock.Under at under above
    omega
  · rw [List.perm_ext_iff_of_nodup (nodup canonical) (nodup othersCanonical)]
    intro block
    rw [canonical.mem_iff_isRun, othersCanonical.mem_iff_isRun, same]

end Canonical

/-! ### The list in memory -/

/-- The list holds the given blocks in memory: they are canonical, the links go through their
headers round a circle from the sentinel, the headers have their sizes and the sentinel has
size zero, and the rover is a node of the circle. -/
structure FreeList.Holds (list : FreeList) (memory : Memory) (blocks : List FreeBlock) : Prop where
  /-- The blocks are those of a sound list. -/
  canonical : Canonical list.sentinel blocks
  /-- The links go round the circle. -/
  circle : Leads memory list.sentinel (list.sentinel :: blocks.map FreeBlock.header) list.sentinel
  /-- The headers have the sizes of the blocks. -/
  sizes : ∀ block ∈ blocks, memory.size block.header = block.units
  /-- The sentinel has size zero. -/
  sentinelSize : memory.size list.sentinel = 0
  /-- The rover is a node of the circle. -/
  rover : list.rover ∈ list.sentinel :: blocks.map FreeBlock.header

/-- The blocks that a list shows are those whose headers the walk meets. -/
theorem FreeList.blocks_of_nodes {list : FreeList} {memory : Memory} {blocks : List FreeBlock}
    (walked : list.nodes memory = .ok (blocks.map FreeBlock.header))
    (sizes : ∀ block ∈ blocks, memory.size block.header = block.units) :
    list.blocks memory = .ok blocks := by
  have same : (blocks.map FreeBlock.header).map
      (fun header => ({ header, units := memory.size header } : FreeBlock)) = blocks := by
    rw [List.map_map]
    refine (List.map_congr_left fun block member => ?_).trans (List.map_id blocks)
    show ({ header := block.header, units := memory.size block.header } : FreeBlock) = block
    rw [sizes block member]
  rw [FreeList.blocks, walked]
  exact congrArg Except.ok same

namespace FreeList.Holds

variable {list : FreeList} {memory other : Memory} {blocks : List FreeBlock}

theorem nodes_eq (holds : list.Holds memory blocks) :
    list.nodes memory = .ok (blocks.map FreeBlock.header) := by
  have bound := holds.canonical.length_lt
  refine walk_eq holds.circle.2 (List.nodup_cons.mp holds.canonical.nodup).1 ?_
  rw [List.length_map]
  omega

theorem blocks_eq (holds : list.Holds memory blocks) : list.blocks memory = .ok blocks :=
  blocks_of_nodes holds.nodes_eq holds.sizes

theorem length_eq (holds : list.Holds memory blocks) :
    list.length memory = .ok blocks.length := by
  rw [FreeList.length, holds.nodes_eq]
  exact congrArg Except.ok (List.length_map FreeBlock.header)

/-- A list holds its blocks in every memory that agrees on its units and on the sentinel. -/
theorem congr (holds : list.Holds memory blocks)
    (same : ∀ address, unitOf address = unitOf list.sentinel ∨ unitOf address ∈ freeUnits blocks →
      other.header address = memory.header address) : list.Holds other blocks := by
  have sameBlock : ∀ block ∈ blocks, other.header block.header = memory.header block.header :=
    fun block member => same _ (Or.inr (mem_freeUnits.mpr
      ⟨block, member, start_mem_stretch (holds.canonical.sits block member).nonempty⟩))
  have sameSentinel := same list.sentinel (Or.inl rfl)
  refine ⟨holds.canonical, holds.circle.congr fun node member => ?_, fun block member => ?_, ?_,
    holds.rover⟩
  · rcases List.mem_cons.mp member with rfl | member
    · exact congrArg Header.next sameSentinel
    · obtain ⟨block, listed, rfl⟩ := List.mem_map.mp member
      exact congrArg Header.next (sameBlock block listed)
  · exact (congrArg Header.size (sameBlock block member)).trans (holds.sizes block member)
  · exact (congrArg Header.size sameSentinel).trans holds.sentinelSize

end FreeList.Holds

/-- A new list holds no blocks. -/
theorem FreeList.holds_create {sentinel : Address} (lies : Lies sentinel 1) (memory : Memory) :
    ∃ list after, FreeList.create sentinel memory = .ok list after ∧ list.sentinel = sentinel ∧
      list.Holds after [] ∧ ∀ address, unitOf address ≠ unitOf sentinel →
        after.header address = memory.header address := by
  refine ⟨{ sentinel, rover := sentinel }, _, rfl, rfl,
    ⟨⟨lies, List.forall_mem_nil _, List.Pairwise.nil⟩, ⟨rfl, ?_⟩, List.forall_mem_nil _, ?_,
      List.mem_cons_self⟩, fun address elsewhere => ?_⟩
  · show Memory.next _ sentinel = sentinel
    rw [Memory.next, Memory.header_setHeader, if_pos rfl]
  · rw [Memory.size, Memory.header_setHeader, if_pos rfl]
  · rw [Memory.header_setHeader, if_neg (Ne.symm elsewhere)]

end NextFit
