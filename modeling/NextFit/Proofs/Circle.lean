/-
This file relates the links in memory to lists of nodes. A route is the list of nodes
that are passed when the links are followed from one node to another, and a circle is a
route that comes back to where it began. Every search of the allocator follows the links
in this way, so each of them is described here by the route that it takes.
-/

import NextFit.FreeList.Insert
import NextFit.FreeList.Take
import NextFit.Proofs.Steps
import Mathlib.Data.List.Nodup

namespace NextFit

theorem Surgery.ask_bind {α β : Type} {question : Memory → Except Fault α} {memory : Memory}
    {answer : α} {rest : α → Surgery β} (here : question memory = .ok answer) :
    (ask question >>= rest) memory = rest answer memory := by
  have asked : ask question memory = .ok answer memory := by
    rw [ask, here]
  exact bind_of_ok asked

theorem Surgery.ask_bind_of_error {α β : Type} {question : Memory → Except Fault α}
    {memory : Memory} {fault : Fault} {rest : α → Surgery β}
    (here : question memory = .error fault) :
    (ask question >>= rest) memory = .error fault memory := by
  refine bind_of_error ?_
  rw [ask, here]

/-! ### Routes -/

/-- Whoever follows the links from the first node passes the nodes of the route, the first node
being the first of them, and arrives at the last one, which is not on the route. -/
def Leads (memory : Memory) : Address → List Address → Address → Prop
  | first, [], last => first = last
  | first, node :: route, last => node = first ∧ Leads memory (memory.next first) route last

section Routes

variable {memory other : Memory} {first last node : Address} {route : List Address}

theorem leads_cons :
    Leads memory first (node :: route) last ↔
      node = first ∧ Leads memory (memory.next first) route last :=
  Iff.rfl

theorem leads_append {front back : List Address} :
    Leads memory first (front ++ back) last ↔
      ∃ middle, Leads memory first front middle ∧ Leads memory middle back last := by
  induction front generalizing first with
  | nil => exact ⟨fun leads => ⟨first, rfl, leads⟩, fun ⟨_, here, leads⟩ => here ▸ leads⟩
  | cons node front inductionHypothesis =>
    simp only [List.cons_append, leads_cons, inductionHypothesis, and_assoc, exists_and_left]

/-- A route through a node falls into the part before it and the part from it on. -/
theorem leads_split {front back : List Address} :
    Leads memory first (front ++ node :: back) last ↔
      Leads memory first front node ∧ Leads memory (memory.next node) back last := by
  rw [leads_append]
  constructor
  · rintro ⟨middle, toMiddle, rfl, fromMiddle⟩
    exact ⟨toMiddle, fromMiddle⟩
  · rintro ⟨toNode, fromNode⟩
    exact ⟨node, toNode, rfl, fromNode⟩

/-- A route is the same in every memory with the same links along it. -/
theorem Leads.congr (leads : Leads memory first route last)
    (same : ∀ node ∈ route, other.next node = memory.next node) :
    Leads other first route last := by
  induction route generalizing first with
  | nil => exact leads
  | cons node route inductionHypothesis =>
    obtain ⟨rfl, leads⟩ := leads
    refine ⟨rfl, ?_⟩
    rw [same node List.mem_cons_self]
    exact inductionHypothesis leads fun later member => same later (List.mem_cons_of_mem _ member)

/-- A circle can be walked from each of its nodes. -/
theorem Leads.rotate {front back : List Address}
    (circle : Leads memory first (front ++ node :: back) first) :
    Leads memory node (node :: (back ++ front)) node := by
  rw [leads_split] at circle
  exact ⟨rfl, leads_append.mpr ⟨first, circle.2, circle.1⟩⟩

/-- On a circle every node is reached from every other one, by a route of nodes of the circle
on which the goal does not occur. -/
theorem Leads.exists_route {circle : List Address} (closed : Leads memory first circle first)
    (distinct : circle.Nodup) {start goal : Address} (startMember : start ∈ circle)
    (goalMember : goal ∈ circle) :
    ∃ route, Leads memory start route goal ∧ (∀ node ∈ route, node ∈ circle ∧ node ≠ goal) ∧
      route.length < circle.length := by
  obtain ⟨front, back, rfl⟩ := List.append_of_mem goalMember
  by_cases same : start = goal
  · exact ⟨[], same, by simp, List.length_pos_of_mem goalMember⟩
  have rotated := closed.rotate
  have elsewhere : start ∈ back ++ front := by
    simp only [List.mem_append, List.mem_cons, same, false_or] at startMember ⊢
    exact startMember.symm
  obtain ⟨before, after, split⟩ := List.append_of_mem elsewhere
  have sizes := congrArg List.length split
  rw [split, ← List.cons_append, leads_split] at rotated
  rw [List.nodup_middle, List.nodup_cons] at distinct
  refine ⟨start :: after, ⟨rfl, rotated.2⟩, fun node member => ?_, ?_⟩
  · have there : node ∈ back ++ front := by
      rw [split]
      exact List.mem_append_right _ member
    rw [List.mem_append] at there
    refine ⟨?_, fun equal => distinct.1 ?_⟩
    · simp only [List.mem_append, List.mem_cons]
      exact there.elim (fun h => Or.inr (Or.inr h)) Or.inl
    · rw [← equal, List.mem_append]
      exact there.symm
  · simp only [List.length_append, List.length_cons] at sizes ⊢
    omega

/-- The node after one on a route is a later node of the route, or the one at which it ends. -/
theorem Leads.next_mem (leads : Leads memory first route last) (member : node ∈ route) :
    memory.next node ∈ (route ++ [last]).tail := by
  obtain ⟨front, back, rfl⟩ := List.append_of_mem member
  have after := (leads_split.mp leads).2
  have there : memory.next node ∈ back ++ [last] := by
    cases back with
    | nil => exact List.mem_singleton.mpr after
    | cons later back => exact after.1 ▸ List.mem_cons_self
  cases front with
  | nil => exact there
  | cons start front =>
    rw [List.append_assoc]
    exact List.mem_append_right _ (List.mem_cons_of_mem _ there)

/-- Two memories in which links lead along the same nodes have the same links there. -/
theorem Leads.next_unique {other : Memory} {otherFirst : Address}
    (leads : Leads memory first route last) (otherLeads : Leads other otherFirst route last) :
    otherFirst = first ∧ ∀ node ∈ route, other.next node = memory.next node := by
  induction route generalizing first otherFirst with
  | nil => exact ⟨Eq.trans otherLeads (Eq.symm leads), List.forall_mem_nil _⟩
  | cons node route inductionHypothesis =>
    obtain ⟨rfl, leads⟩ := leads
    obtain ⟨rfl, otherLeads⟩ := otherLeads
    obtain ⟨same, later⟩ := inductionHypothesis leads otherLeads
    exact ⟨rfl, List.forall_mem_cons.mpr ⟨same, later⟩⟩

/-- On a circle, whatever a node links to comes right after it. -/
theorem Leads.next_eq {rest : List Address} (circle : Leads memory first (first :: rest) first)
    (member : node ∈ first :: rest) (notFirst : memory.next node ≠ first) :
    ∃ front back, rest = front ++ memory.next node :: back ∧ node = front.getLastD first := by
  obtain ⟨front, back, split⟩ := List.append_of_mem member
  rw [split, leads_split] at circle
  cases back with
  | nil => exact absurd circle.2 notFirst
  | cons later back =>
    obtain ⟨rfl, -⟩ := circle.2
    cases front with
    | nil =>
      obtain ⟨rfl, rfl⟩ := List.cons.inj split
      exact ⟨[], back, rfl, rfl⟩
    | cons start front =>
      obtain ⟨rfl, rfl⟩ := List.cons.inj split
      exact ⟨front ++ [node], back, by simp, by rw [List.getLastD_concat]⟩

/-- There is one way from a node to the first place where the last one stands. -/
theorem Leads.unique {way : List Address} (leads : Leads memory first route last)
    (apart : last ∉ route) (wayLeads : Leads memory first way last) (wayApart : last ∉ way) :
    way = route := by
  induction route generalizing first way with
  | nil =>
    cases way with
    | nil => rfl
    | cons node way => exact absurd (wayLeads.1.trans leads ▸ List.mem_cons_self) wayApart
  | cons node route inductionHypothesis =>
    obtain ⟨rfl, leads⟩ := leads
    cases way with
    | nil => exact absurd (Eq.symm wayLeads ▸ List.mem_cons_self) apart
    | cons later way =>
      obtain ⟨rfl, wayLeads⟩ := wayLeads
      rw [List.mem_cons, not_or] at apart wayApart
      rw [inductionHypothesis leads apart.2 wayLeads wayApart.2]

/-- On the way to the first place where the last node stands no node is met twice. -/
theorem Leads.nodup (leads : Leads memory first route last) (apart : last ∉ route) :
    route.Nodup := by
  induction route generalizing first with
  | nil => exact List.nodup_nil
  | cons node route inductionHypothesis =>
    obtain ⟨rfl, leads⟩ := leads
    rw [List.mem_cons, not_or] at apart
    refine List.nodup_cons.mpr ⟨fun again => ?_, inductionHypothesis leads apart.2⟩
    obtain ⟨front, back, rfl⟩ := List.append_of_mem again
    have later := (leads_split.mp leads).2
    have backApart : last ∉ back := fun member =>
      apart.2 (List.mem_append_right _ (List.mem_cons_of_mem _ member))
    -- After the second time the way is as long as after the first time, and shorter.
    have sizes := congrArg List.length (leads.unique apart.2 later backApart)
    rw [List.length_append, List.length_cons] at sizes
    omega

/-- Some nodes in a row end with the last one of them. -/
theorem exists_init (first : Address) (rest : List Address) :
    ∃ init, first :: rest = init ++ [rest.getLastD first] := by
  have notEmpty : first :: rest ≠ [] := List.cons_ne_nil _ _
  refine ⟨(first :: rest).dropLast, ?_⟩
  rw [← List.getLast_eq_getLastD notEmpty, List.dropLast_append_getLast]

end Routes

/-! ### Searches -/

namespace FreeList

variable {memory : Memory} {first last : Address} {route : List Address}

/-- The walk up to the sentinel finds the nodes of the route to it. -/
theorem walk_eq {sentinel : Address} (leads : Leads memory first route sentinel)
    (apart : sentinel ∉ route) {fuel : Nat} (enough : route.length < fuel) :
    walk memory sentinel fuel first = .ok route := by
  induction route generalizing first fuel with
  | nil =>
    obtain ⟨fuel, rfl⟩ := Nat.exists_eq_add_of_lt enough
    rw [walk, if_pos (show first = sentinel from leads)]
  | cons node route inductionHypothesis =>
    obtain ⟨rfl, leads⟩ := leads
    simp only [List.mem_cons, not_or] at apart
    rw [List.length_cons] at enough
    obtain ⟨fuel, rfl⟩ := Nat.exists_eq_succ_of_ne_zero (Nat.ne_zero_of_lt enough)
    rw [walk, if_neg (Ne.symm apart.1), inductionHypothesis leads apart.2 (by omega)]
    rfl

/-- The search for a place looks at the nodes of a route one after another, and ends at the node to
which the route leads if this is the first place. It has then made as many rounds as it has looked
at nodes. -/
theorem placeFrom_eq {block : Address} (leads : Leads memory first route last)
    (new : ∀ node ∈ route ++ [last], block ≠ node ∧ block ≠ memory.next node)
    (skipped : ∀ node ∈ route, between node (memory.next node) block = false)
    (here : between last (memory.next last) block = true) (fuel : Nat) :
    placeFrom memory block fuel first =
      if fuel ≤ route.length then .error .endlessWalk else .ok last := by
  induction route generalizing first fuel with
  | nil =>
    cases fuel with
    | zero => rfl
    | succ fuel =>
      obtain rfl : first = last := leads
      rw [List.nil_append, List.forall_mem_singleton] at new
      rw [placeFrom, if_neg (not_or.mpr new), if_pos here, List.length_nil,
        if_neg (Nat.not_succ_le_zero fuel)]
  | cons node route inductionHypothesis =>
    cases fuel with
    | zero => rfl
    | succ fuel =>
      obtain ⟨rfl, leads⟩ := leads
      rw [List.cons_append, List.forall_mem_cons] at new
      rw [List.forall_mem_cons] at skipped
      rw [placeFrom, if_neg (not_or.mpr new.1), skipped.1, if_neg Bool.false_ne_true,
        inductionHypothesis leads new.2 skipped.2, List.length_cons]
      simp only [Nat.succ_le_succ_iff]

/-- The search for the place of a block looks at the nodes of a route that leads to the block, and
stops at a fault when it comes to the last one of them, which leads on to the block. -/
theorem placeFrom_of_listed {block : Address} (leads : Leads memory first route block)
    (apart : block ∉ route)
    (skipped : ∀ node ∈ route, memory.next node ≠ block →
      between node (memory.next node) block = false) (fuel : Nat) :
    placeFrom memory block fuel first =
      .error (if fuel ≤ route.length - 1 then .endlessWalk else .alreadyFree block) := by
  induction route generalizing first fuel with
  | nil =>
    cases fuel with
    | zero => rfl
    | succ fuel =>
      have here : block = first := Eq.symm leads
      rw [placeFrom, if_pos (Or.inl here), List.length_nil, if_neg (Nat.not_succ_le_zero fuel)]
  | cons node route inductionHypothesis =>
    cases fuel with
    | zero => rfl
    | succ fuel =>
      obtain ⟨rfl, leads⟩ := leads
      rw [List.mem_cons, not_or] at apart
      rw [List.forall_mem_cons] at skipped
      rw [List.length_cons, Nat.add_sub_cancel]
      cases route with
      | nil =>
        have next : block = memory.next node := Eq.symm leads
        rw [placeFrom, if_pos (Or.inr next), List.length_nil, if_neg (Nat.not_succ_le_zero fuel)]
      | cons later route =>
        have notNext : block ≠ memory.next node := fun same =>
          apart.2 (same.trans leads.1.symm ▸ List.mem_cons_self)
        rw [placeFrom, if_neg (not_or.mpr ⟨apart.1, notNext⟩), skipped.1 (Ne.symm notNext),
          if_neg Bool.false_ne_true, inductionHypothesis leads apart.2 skipped.2]
        simp only [List.length_cons, Nat.add_sub_cancel, Nat.succ_le_succ_iff]

/-- The search for a fit looks at the nodes of a route one after another, and then at the node to
which the route leads. If it stops there, it has made as many rounds as it has looked at nodes. -/
theorem fitAfter_eq {rover previous : Address} {wanted : Word}
    (leads : Leads memory (memory.next previous) route last) (apart : rover ∉ route)
    (small : ∀ node ∈ route, memory.size node < wanted)
    (stops : wanted ≤ memory.size last ∨ last = rover) (fuel : Nat) :
    fitAfter memory rover wanted fuel previous =
      if fuel ≤ route.length then .error .endlessWalk
      else .ok (if wanted ≤ memory.size last then some (route.getLastD previous) else none) := by
  induction route generalizing previous fuel with
  | nil =>
    cases fuel with
    | zero => rfl
    | succ fuel =>
      have here : memory.next previous = last := leads
      rw [fitAfter, here, List.length_nil, if_neg (Nat.not_succ_le_zero fuel)]
      by_cases large : wanted ≤ memory.size last
      · rw [if_pos large, if_pos large]
        rfl
      · rw [if_neg large, if_neg large, if_pos (stops.resolve_left large)]
  | cons node route inductionHypothesis =>
    cases fuel with
    | zero => rfl
    | succ fuel =>
      obtain ⟨rfl, leads⟩ := leads
      simp only [List.mem_cons, not_or] at apart
      rw [List.forall_mem_cons] at small
      rw [fitAfter, if_neg (UInt64.not_le.mpr small.1), if_neg (Ne.symm apart.1),
        inductionHypothesis leads apart.2 small.2, List.length_cons, List.getLastD_cons]
      simp only [Nat.succ_le_succ_iff]

/-- The search for a fit reads no memory but the headers of the nodes that it meets. -/
theorem fitAfter_congr {other : Memory} {nodes : List Address} {rover previous : Address}
    (closed : ∀ node ∈ nodes, memory.next node ∈ nodes)
    (next : ∀ node ∈ nodes, other.next node = memory.next node)
    (size : ∀ node ∈ nodes, other.size node = memory.size node) (wanted : Word) (fuel : Nat)
    (member : previous ∈ nodes) :
    fitAfter other rover wanted fuel previous = fitAfter memory rover wanted fuel previous := by
  induction fuel generalizing previous with
  | zero => rfl
  | succ fuel inductionHypothesis =>
    have onward := closed previous member
    rw [fitAfter, fitAfter, next previous member, size _ onward, inductionHypothesis onward]

end FreeList

end NextFit
