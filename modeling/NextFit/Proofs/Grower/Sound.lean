/-
This file says what a heap relies on when it asks for memory. A grower is sound if every
region it hands over lies in memory, is as large as was asked for, and has no unit in
common with the regions that came before. How a grower finds such regions, and what it
does when it has none, is up to it.
-/

import NextFit.Proofs.Stretch
import Mathlib.Algebra.BigOperators.Group.List.Basic

namespace NextFit

/-- The units of a region. -/
def Region.stretch (region : Region) : Finset Nat :=
  NextFit.stretch region.start region.units

/-- The units of some regions. -/
def owned (regions : List Region) : Finset Nat :=
  covered (regions.map Region.stretch)

theorem owned_cons (region : Region) (regions : List Region) :
    owned (region :: regions) = region.stretch ∪ owned regions := rfl

namespace Grower

variable {G E : Type} [Grower G E] {fresh grower after : G} {regions : List Region}

/-- The states that a grower passes through as it is asked for memory, with the regions that it
has handed over until then, the last one first. -/
inductive Reaches (fresh : G) : List Region → G → Prop
  | fresh : Reaches fresh [] fresh
  | granted {regions : List Region} {grower after : G} {requested : Word} {region : Region} :
      Reaches fresh regions grower → grow requested grower = .ok (.ok region) after →
      Reaches fresh (region :: regions) after
  | refused {regions : List Region} {grower after : G} {requested : Word} {error : E} :
      Reaches fresh regions grower → grow requested grower = .ok (.error error) after →
      Reaches fresh regions after
  | faulted {regions : List Region} {grower after : G} {requested : Word} {fault : Fault} :
      Reaches fresh regions grower → grow requested grower = .error fault after →
      Reaches fresh regions after

/-- The grower itself stops at a fault, although it was asked for some units. -/
def Faults (fresh : G) (fault : Fault) : Prop :=
  ∃ (regions : List Region) (grower after : G) (requested : Word),
    Reaches fresh regions grower ∧ requested ≠ 0 ∧ grow requested grower = .error fault after

/-- A region that a request for some units may be answered with, after some earlier regions. -/
structure Serves (regions : List Region) (requested : Word) (region : Region) : Prop where
  lies : Lies region.start region.units
  enough : requested ≤ region.units
  apart : ∀ earlier ∈ regions, Disjoint region.stretch earlier.stretch

theorem Serves.disjoint_owned {requested : Word} {region : Region}
    (serves : Serves regions requested region) : Disjoint region.stretch (owned regions) :=
  disjoint_covered.mpr (List.forall_mem_map.mpr serves.apart)

/-- Whatever the grower is asked for, and whatever it was asked for before, a region that it hands
over serves the request. -/
structure Sound (fresh : G) : Prop where
  serves {regions : List Region} {grower after : G} {requested : Word} {region : Region} :
    Reaches fresh regions grower → grow requested grower = .ok (.ok region) after →
    Serves regions requested region

/-- A refusal leaves the grower as it was, as far as a view of it shows. -/
def Steady {V : Type} (fresh : G) (view : G → V) : Prop :=
  ∀ {regions : List Region} {grower after : G} {requested : Word} {error : E},
    Reaches fresh regions grower → grow requested grower = .ok (.error error) after →
    view after = view grower

theorem Sound.pairwise_disjoint (sound : Sound fresh) (reached : Reaches fresh regions grower) :
    (regions.map Region.stretch).Pairwise Disjoint := by
  induction reached with
  | fresh => exact List.Pairwise.nil
  | granted reached granted inductionHypothesis =>
    rw [List.map_cons, List.pairwise_cons, List.forall_mem_map]
    exact ⟨(sound.serves reached granted).apart, inductionHypothesis⟩
  | refused _ _ inductionHypothesis => exact inductionHypothesis
  | faulted _ _ inductionHypothesis => exact inductionHypothesis

theorem Sound.lies (sound : Sound fresh) (reached : Reaches fresh regions grower) :
    ∀ region ∈ regions, Lies region.start region.units := by
  induction reached with
  | fresh => exact List.forall_mem_nil _
  | granted reached granted inductionHypothesis =>
    exact List.forall_mem_cons.mpr ⟨(sound.serves reached granted).lies, inductionHypothesis⟩
  | refused _ _ inductionHypothesis => exact inductionHypothesis
  | faulted _ _ inductionHypothesis => exact inductionHypothesis

/-- The bytes in the units of a sound grower are the bytes of its regions. -/
theorem Sound.unitOf_mem_iff (sound : Sound fresh) (reached : Reaches fresh regions grower)
    {address : Address} : unitOf address ∈ owned regions ↔
      ∃ region ∈ regions, region.start.toNat ≤ address.toNat ∧
        address.toNat < region.start.toNat + 16 * region.units.toNat := by
  simp only [owned, mem_covered, List.mem_map, exists_exists_and_eq_and]
  refine exists_congr fun region => and_congr_right fun member => ?_
  exact (sound.lies reached region member).unitOf_mem_iff

/-- A sound grower has handed over as many units as its regions have one by one. -/
theorem Sound.card_owned (sound : Sound fresh) (reached : Reaches fresh regions grower) :
    (owned regions).card = (regions.map fun region => region.units.toNat).sum := by
  rw [owned, card_covered (sound.pairwise_disjoint reached), List.map_map]
  exact congrArg List.sum (List.map_congr_left fun region _ => card_stretch _ _)

/-- No address space has more units than `2 ^ 60`. -/
theorem Sound.card_owned_le (sound : Sound fresh) (reached : Reaches fresh regions grower) :
    (owned regions).card ≤ 2 ^ 60 := by
  have inside : owned regions ⊆ Finset.range (2 ^ 60) := by
    intro unit member
    obtain ⟨part, listed, here⟩ := mem_covered.mp member
    obtain ⟨region, regionMember, rfl⟩ := List.mem_map.mp listed
    have within := (sound.lies reached region regionMember).unitOf_add_le
    rw [Region.stretch, mem_stretch] at here
    rw [Finset.mem_range]
    omega
  have count := Finset.card_le_card inside
  rwa [Finset.card_range] at count

end Grower

end NextFit
