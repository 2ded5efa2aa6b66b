/-
This file holds the arithmetic of stretches of memory. A stretch is a number of units
from an address on, and it is looked at as the set of its unit numbers, so that sharing
out memory is a matter of disjoint unions. The file also says what it means that one
block lies between two others on a circle: seen from an origin the address space is a
line of ranks, on which the lowest unit follows the highest one, and to be between is to
have a rank between.
-/

import NextFit.FreeList.Insert
import NextFit.Grower.Basic
import Mathlib.Algebra.GroupWithZero.Nat
import Mathlib.Data.Finset.Card
import Mathlib.Order.Interval.Finset.Nat

namespace NextFit

/-! ### Stretches -/

/-- The units of a stretch of memory, by their numbers. -/
def stretch (start : Address) (units : Word) : Finset Nat :=
  Finset.Ico (unitOf start) (unitOf start + units.toNat)

/-- A stretch lies in memory: it begins where a header can stand, not at the null address, and
it does not run past the last address. -/
structure Lies (start : Address) (units : Word) : Prop where
  /-- A header can stand where it begins. -/
  aligned : 16 ∣ start.toNat
  /-- It does not begin at the null address. -/
  notNull : start ≠ 0
  /-- It ends within the address space. -/
  within : start.toNat + 16 * units.toNat ≤ 2 ^ 64

theorem mem_stretch {start : Address} {units : Word} {unit : Nat} :
    unit ∈ stretch start units ↔
      unitOf start ≤ unit ∧ unit < unitOf start + units.toNat := by
  rw [stretch, Finset.mem_Ico]

theorem card_stretch (start : Address) (units : Word) :
    (stretch start units).card = units.toNat := by
  rw [stretch, Nat.card_Ico, Nat.add_sub_cancel_left]

theorem stretch_zero (start : Address) : stretch start 0 = ∅ :=
  Finset.Ico_self _

theorem start_mem_stretch {start : Address} {units : Word} (some : units ≠ 0) :
    unitOf start ∈ stretch start units := by
  have positive := toNat_pos_of_ne_zero some
  rw [mem_stretch]
  omega

/-- A stretch tells where it begins and how long it is. -/
theorem stretch_inj {start other : Address} {units otherUnits : Word} (some : units ≠ 0)
    (same : stretch start units = stretch other otherUnits) :
    unitOf start = unitOf other ∧ units = otherUnits := by
  have count := congrArg Finset.card same
  rw [card_stretch, card_stretch] at count
  obtain rfl := UInt64.toNat_inj.mp count
  have here : unitOf start ∈ stretch start units := start_mem_stretch some
  have there : unitOf other ∈ stretch other units := start_mem_stretch some
  rw [same, mem_stretch] at here
  rw [← same, mem_stretch] at there
  exact ⟨by omega, rfl⟩

theorem toNat_eq_of_aligned {address : Address} (aligned : 16 ∣ address.toNat) :
    address.toNat = 16 * unitOf address := by
  unfold unitOf
  omega

/-- Headers in the same unit are the same. -/
theorem unitOf_inj {first second : Address} (firstAligned : 16 ∣ first.toNat)
    (secondAligned : 16 ∣ second.toNat) : unitOf first = unitOf second ↔ first = second := by
  rw [← UInt64.toNat_inj]
  unfold unitOf
  omega

/-- Headers compare as their units do. -/
theorem lt_iff_unitOf_lt {first second : Address} (firstAligned : 16 ∣ first.toNat)
    (secondAligned : 16 ∣ second.toNat) : first < second ↔ unitOf first < unitOf second := by
  rw [UInt64.lt_iff_toNat_lt]
  unfold unitOf
  omega

namespace Lies

variable {start : Address} {units : Word}

theorem toNat_eq (lies : Lies start units) : start.toNat = 16 * unitOf start :=
  toNat_eq_of_aligned lies.aligned

theorem unitOf_pos (lies : Lies start units) : 0 < unitOf start := by
  have place := lies.toNat_eq
  have notNull := toNat_pos_of_ne_zero lies.notNull
  omega

theorem unitOf_add_le (lies : Lies start units) : unitOf start + units.toNat ≤ 2 ^ 60 := by
  have place := lies.toNat_eq
  have within := lies.within
  omega

/-- Whatever lies in memory with some units lies there with fewer. -/
theorem mono (lies : Lies start units) {fewer : Word} (le : fewer.toNat ≤ units.toNat) :
    Lies start fewer where
  aligned := lies.aligned
  notNull := lies.notNull
  within := by
    have within := lies.within
    omega

end Lies

/-! ### Going up -/

theorem above_zero (start : Address) : start.above 0 = start := by
  rw [Address.above, UInt64.mul_zero, UInt64.add_zero]

theorem toNat_above (start : Address) (units : Word) :
    (start.above units).toNat = (start.toNat + 16 * units.toNat) % 2 ^ 64 := by
  have unitBytes : unitBytes.toNat = 16 := rfl
  rw [Address.above, UInt64.toNat_add, UInt64.toNat_mul, unitBytes]
  omega

theorem aligned_above {start : Address} (aligned : 16 ∣ start.toNat) (units : Word) :
    16 ∣ (start.above units).toNat := by
  rw [toNat_above]
  omega

theorem unitOf_above {start : Address} (aligned : 16 ∣ start.toNat) (units : Word) :
    unitOf (start.above units) = (unitOf start + units.toNat) % 2 ^ 60 := by
  have place := toNat_eq_of_aligned aligned
  have above := toNat_eq_of_aligned (aligned_above aligned units)
  rw [toNat_above, place] at above
  omega

namespace Lies

variable {start : Address} {units : Word}

theorem unitOf_above (lies : Lies start units) {lead : Word} (inside : lead.toNat < units.toNat) :
    unitOf (start.above lead) = unitOf start + lead.toNat := by
  have within := lies.unitOf_add_le
  rw [NextFit.unitOf_above lies.aligned]
  omega

/-- The upper part of a stretch lies in memory as well. -/
theorem above (lies : Lies start units) {lead rest : Word}
    (inside : lead.toNat < units.toNat) (fits : lead.toNat + rest.toNat ≤ units.toNat) :
    Lies (start.above lead) rest := by
  have within := lies.unitOf_add_le
  have positive := lies.unitOf_pos
  have aligned := aligned_above lies.aligned lead
  have place := toNat_eq_of_aligned aligned
  have unit := lies.unitOf_above inside
  refine ⟨aligned, fun null => ?_, by omega⟩
  have zero : (0 : Address).toNat = 0 := rfl
  rw [null, zero] at place
  rw [null] at unit
  omega

/-- So does what is left above the lower part, if anything is. -/
theorem upper (lies : Lies start units) {lead : Word} (enough : lead ≤ units)
    (more : units - lead ≠ 0) : Lies (start.above lead) (units - lead) := by
  have positive : 0 < (units - lead).toNat := toNat_pos_of_ne_zero more
  have difference : (units - lead).toNat = units.toNat - lead.toNat :=
    UInt64.toNat_sub_of_le _ _ enough
  exact lies.above (by omega) (by omega)

/-- What is left above the lower part of a stretch belongs to the stretch. -/
theorem stretch_above_subset (lies : Lies start units) {lead : Word} (enough : lead ≤ units) :
    stretch (start.above lead) (units - lead) ⊆ stretch start units := by
  have difference := UInt64.toNat_sub_of_le _ _ enough
  intro unit member
  rw [mem_stretch] at member ⊢
  by_cases inside : lead.toNat < units.toNat
  · rw [lies.unitOf_above inside] at member
    omega
  · omega

/-- A stretch falls into its lower and its upper part. -/
theorem stretch_eq_union (lies : Lies start units) {lead rest : Word}
    (inside : lead.toNat < units.toNat) (fits : lead.toNat + rest.toNat = units.toNat) :
    stretch start units = stretch start lead ∪ stretch (start.above lead) rest := by
  have unit := lies.unitOf_above inside
  ext place
  rw [Finset.mem_union, mem_stretch, mem_stretch, mem_stretch, unit]
  omega

/-- What is left of a stretch above its lower part falls into two pieces at any place further up. -/
theorem stretch_above_eq_union (lies : Lies start units) {fewer more : Word}
    (less : fewer ≤ more) (inside : more.toNat < units.toNat) :
    stretch (start.above fewer) (units - fewer) =
      stretch (start.above fewer) (more - fewer) ∪ stretch (start.above more) (units - more) := by
  have order := UInt64.le_iff_toNat_le.mp less
  have whole : (units - fewer).toNat = units.toNat - fewer.toNat :=
    UInt64.toNat_sub_of_le _ _ (UInt64.le_iff_toNat_le.mpr (by omega))
  have lower : (more - fewer).toNat = more.toNat - fewer.toNat := UInt64.toNat_sub_of_le _ _ less
  have upper : (units - more).toNat = units.toNat - more.toNat :=
    UInt64.toNat_sub_of_le _ _ (UInt64.le_iff_toNat_le.mpr (by omega))
  ext unit
  rw [Finset.mem_union, mem_stretch, mem_stretch, mem_stretch, lies.unitOf_above inside,
    lies.unitOf_above (by omega), whole, lower, upper]
  omega

theorem disjoint_parts (lies : Lies start units) {lead : Word} (inside : lead.toNat < units.toNat)
    (rest : Word) : Disjoint (stretch start lead) (stretch (start.above lead) rest) := by
  have unit := lies.unitOf_above inside
  rw [Finset.disjoint_left]
  intro place low high
  rw [mem_stretch] at low high
  omega

/-- The bytes of a stretch fall in its units. -/
theorem unitOf_mem_iff (lies : Lies start units) {address : Address} :
    unitOf address ∈ stretch start units ↔
      start.toNat ≤ address.toNat ∧ address.toNat < start.toNat + 16 * units.toNat := by
  have place := lies.toNat_eq
  rw [mem_stretch]
  unfold unitOf at place ⊢
  omega

/-- A stretch ends where another one begins just if their addresses say so. -/
theorem above_eq_iff (lies : Lies start units) {next : Address} {nextUnits : Word}
    (nextLies : Lies next nextUnits) :
    start.above units = next ↔ unitOf start + units.toNat = unitOf next := by
  have within := lies.unitOf_add_le
  have positive := nextLies.unitOf_pos
  have bound := next.toNat_lt
  have place := nextLies.toNat_eq
  rw [← unitOf_inj (aligned_above lies.aligned units) nextLies.aligned,
    NextFit.unitOf_above lies.aligned]
  omega

end Lies

/-- The units of a sum that fits, as a number. -/
theorem toNat_add_of_lt {left right : Word} (fits : left.toNat + right.toNat < 2 ^ 64) :
    (left + right).toNat = left.toNat + right.toNat := by
  rw [UInt64.toNat_add, Nat.mod_eq_of_lt fits]

/-! ### Ranks -/

/-- The rank of an address: the number of units that lie from the origin up to it, where the
lowest unit of the address space follows the highest one. -/
def rank (origin address : Address) : Nat :=
  (unitOf address + (2 ^ 60 - unitOf origin)) % 2 ^ 60

theorem unitOf_lt (address : Address) : unitOf address < 2 ^ 60 := by
  have bound := address.toNat_lt
  unfold unitOf
  omega

theorem rank_self (origin : Address) : rank origin origin = 0 := by
  have bound := unitOf_lt origin
  unfold rank
  omega

/-- Along a stretch that does not hold the origin the ranks go up one by one. -/
theorem rank_add_le {origin start : Address} {units : Word} (lies : Lies start units)
    (apart : unitOf origin ∉ stretch start units) (some : units ≠ 0) :
    0 < rank origin start ∧ rank origin start + units.toNat ≤ 2 ^ 60 := by
  have bound := unitOf_lt origin
  have startBound := unitOf_lt start
  have within := lies.unitOf_add_le
  have positive := toNat_pos_of_ne_zero some
  rw [mem_stretch] at apart
  unfold rank
  omega

/-- On the line of ranks, a block lies between two neighbours on the circle if its rank lies
between theirs. The last neighbour of all is the origin. -/
theorem between_iff {origin current next block : Address} (originAligned : 16 ∣ origin.toNat)
    (currentAligned : 16 ∣ current.toNat) (nextAligned : 16 ∣ next.toNat)
    (blockAligned : 16 ∣ block.toNat)
    (neighbours : rank origin current < rank origin next ∨ next = origin)
    (new : block ≠ current ∧ block ≠ next) :
    FreeList.between current next block = true ↔
      rank origin current < rank origin block ∧
        (rank origin block < rank origin next ∨ next = origin) := by
  have bound := unitOf_lt origin
  have currentBound := unitOf_lt current
  have nextBound := unitOf_lt next
  have blockBound := unitOf_lt block
  obtain ⟨notCurrent, notNext⟩ := new
  rw [ne_eq, ← unitOf_inj blockAligned currentAligned] at notCurrent
  rw [ne_eq, ← unitOf_inj blockAligned nextAligned] at notNext
  rw [← unitOf_inj nextAligned originAligned] at neighbours ⊢
  simp only [FreeList.between, Bool.or_eq_true, Bool.and_eq_true, decide_eq_true_eq,
    lt_iff_unitOf_lt currentAligned blockAligned, lt_iff_unitOf_lt blockAligned nextAligned,
    ← UInt64.not_lt, lt_iff_unitOf_lt currentAligned nextAligned]
  unfold rank at neighbours ⊢
  omega

/-! ### Sharing out -/

/-- The units that some parts have together. -/
def covered (parts : List (Finset Nat)) : Finset Nat :=
  parts.foldr (· ∪ ·) ∅

/-- The parts share out the whole: every unit of the whole is in a part, every unit of a part
is in the whole, and none is in two parts. -/
structure SharedOut (whole : Finset Nat) (parts : List (Finset Nat)) : Prop where
  /-- The parts have the units of the whole and no others. -/
  covers : covered parts = whole
  /-- No unit is in two parts. -/
  apart : parts.Pairwise Disjoint

theorem covered_cons (part : Finset Nat) (parts : List (Finset Nat)) :
    covered (part :: parts) = part ∪ covered parts := rfl

theorem mem_covered {parts : List (Finset Nat)} {unit : Nat} :
    unit ∈ covered parts ↔ ∃ part ∈ parts, unit ∈ part := by
  induction parts with
  | nil => simp [covered]
  | cons part parts inductionHypothesis =>
    rw [covered_cons, Finset.mem_union, inductionHypothesis]
    simp only [List.mem_cons, exists_eq_or_imp]

theorem covered_append (front back : List (Finset Nat)) :
    covered (front ++ back) = covered front ∪ covered back := by
  ext unit
  simp only [mem_covered, Finset.mem_union, List.mem_append, or_and_right, exists_or]

theorem disjoint_covered {part : Finset Nat} {parts : List (Finset Nat)} :
    Disjoint part (covered parts) ↔ ∀ other ∈ parts, Disjoint part other := by
  induction parts with
  | nil => simp [covered]
  | cons other parts inductionHypothesis =>
    rw [covered_cons, Finset.disjoint_union_right, inductionHypothesis]
    simp only [List.mem_cons, forall_eq_or_imp]

/-- Disjoint parts have together as many units as they have one by one. -/
theorem card_covered {parts : List (Finset Nat)} (apart : parts.Pairwise Disjoint) :
    (covered parts).card = (parts.map Finset.card).sum := by
  induction parts with
  | nil => rfl
  | cons part parts inductionHypothesis =>
    rw [List.pairwise_cons] at apart
    rw [covered_cons, Finset.card_union_of_disjoint (disjoint_covered.mpr apart.1),
      inductionHypothesis apart.2, List.map_cons, List.sum_cons]

/-- What is shared out has as many units as its parts. -/
theorem SharedOut.card_eq {whole : Finset Nat} {parts : List (Finset Nat)}
    (shared : SharedOut whole parts) : whole.card = (parts.map Finset.card).sum := by
  rw [← shared.covers, card_covered shared.apart]

end NextFit
