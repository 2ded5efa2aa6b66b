/-
This file proves that a list refuses a block which is on it already. Such a block ranks
between its two neighbours on the circle, so that it belongs after no node but the one that
leads to it. Wherever the rover stands, the search therefore goes on until it comes to the
block or to the node before it, and stops there at a fault. Nothing has been written by then.
-/

import NextFit.Heap.Basic
import NextFit.Proofs.FreeList.Fitting

namespace NextFit

namespace FreeList

variable {list : FreeList} {memory : Memory} {blocks : List FreeBlock} {block : FreeBlock}
  {node rover : Address}

/-- A block on the circle lies between no two neighbours, unless it is one of them. -/
theorem Holds.not_between (holds : list.Holds memory blocks) (member : block ∈ blocks)
    (listed : node ∈ list.sentinel :: blocks.map FreeBlock.header) (apart : node ≠ block.header)
    (nextApart : memory.next node ≠ block.header) :
    between node (memory.next node) block.header = false := by
  have canonical := holds.canonical
  have blockListed : block.header ∈ blocks.map FreeBlock.header := List.mem_map_of_mem member
  have blockAligned := canonical.aligned_of_mem (List.mem_cons_of_mem _ blockListed)
  rw [← Bool.not_eq_true, between_iff canonical.sentinelLies.aligned
    (canonical.aligned_of_mem listed) (canonical.aligned_of_mem (holds.next_mem listed))
    blockAligned (holds.rank_lt_next listed) ⟨Ne.symm apart, Ne.symm nextApart⟩]
  rintro ⟨under, above⟩
  obtain ⟨front, back, split⟩ := List.append_of_mem blockListed
  have circle := holds.circle
  have ranks := canonical.ranks
  have nodup := canonical.nodup
  rw [split, ← List.cons_append] at circle ranks listed nodup
  obtain ⟨-, backRanks, frontRanks⟩ := List.pairwise_append.mp ranks
  rcases List.mem_append.mp listed with early | late
  · -- The next node comes before the block as well, and it is not the sentinel.
    have later := (leads_split.mp circle).1.next_mem early
    rw [List.cons_append, List.tail_cons, List.mem_append, List.mem_singleton] at later
    have early := later.resolve_right nextApart
    have below := frontRanks _ (List.mem_cons_of_mem _ early) _ List.mem_cons_self
    rcases above with above | root
    · exact Nat.lt_asymm above below
    · rw [List.cons_append, List.nodup_cons] at nodup
      exact nodup.1 (List.mem_append_left _ (root ▸ early))
  · have late := (List.mem_cons.mp late).resolve_left apart
    exact Nat.lt_asymm under ((List.pairwise_cons.mp backRanks).1 node late)

/-- From any node of the circle the search for the place of a block on it comes to the block, and it
looks at no node twice. -/
theorem Holds.placeFrom_listed (holds : list.Holds memory blocks) (member : block ∈ blocks)
    (onCircle : rover ∈ list.sentinel :: blocks.map FreeBlock.header) :
    ∃ rounds ≤ blocks.length, ∀ fuel, placeFrom memory block.header fuel rover =
      .error (if fuel ≤ rounds then .endlessWalk else .alreadyFree block.header) := by
  obtain ⟨route, leads, passed, short⟩ := holds.circle.exists_route holds.canonical.nodup onCircle
    (List.mem_cons_of_mem _ (List.mem_map_of_mem member))
  rw [List.length_cons, List.length_map] at short
  exact ⟨route.length - 1, by omega, placeFrom_of_listed leads
    (fun listed => (passed _ listed).2 rfl)
    fun node listed => holds.not_between member (passed node listed).1 (passed node listed).2⟩

theorem Holds.findPlace_listed (holds : list.Holds memory blocks) (member : block ∈ blocks) :
    list.findPlace block.header memory = .error (.alreadyFree block.header) := by
  have bound := holds.canonical.length_lt
  obtain ⟨rounds, short, search⟩ := holds.placeFrom_listed member holds.rover
  exact (search longestWalk).trans (congrArg Except.error (if_neg (by omega)))

theorem Holds.insert_listed (holds : list.Holds memory blocks) (member : block ∈ blocks) :
    list.insert block.header memory = .error (.alreadyFree block.header) memory := by
  have nonempty : memory.size block.header ≠ 0 := by
    rw [holds.sizes block member]
    exact (holds.canonical.sits block member).nonempty
  unfold insert
  rw [get_bind, if_neg nonempty, Surgery.ask_bind_of_error (holds.findPlace_listed member)]

/-- A list refuses each of its blocks. No two neighbours have the block between them but those of
which it is one, so that from wherever the rover stands the search comes to the block. The
fault leaves memory as it is, and a heap also keeps the list with its rover. -/
theorem Holds.refuses_listed (holds : list.Holds memory blocks) (member : block ∈ blocks) :
    (∀ node ∈ list.sentinel :: blocks.map FreeBlock.header, node ≠ block.header →
      memory.next node ≠ block.header → between node (memory.next node) block.header = false) ∧
    ∀ rover ∈ list.sentinel :: blocks.map FreeBlock.header,
      (∃ rounds ≤ blocks.length, ∀ fuel, placeFrom memory block.header fuel rover =
        .error (if fuel ≤ rounds then .endlessWalk else .alreadyFree block.header)) ∧
      insert { list with rover } block.header memory =
        .error (.alreadyFree block.header) memory ∧
      (∀ {G E : Type} (session : Session G E), session.heap.memory = memory →
        session.heap.free = some { list with rover } →
        (do Action.setFree (← Action.onMemory (insert { list with rover } block.header)) :
          Action G E Unit) session = .error (.alreadyFree block.header) session) ∧
      (Fault.alreadyFree block.header).message =
        "Block " ++ Address.text block.header ++ " is already free" := by
  refine ⟨fun node listed => holds.not_between member listed, fun rover onCircle => ?_⟩
  have refused : insert { list with rover } block.header memory = _ :=
    (holds.roving onCircle).insert_listed member
  refine ⟨holds.placeFrom_listed member onCircle, refused, fun session same _ => ?_, rfl⟩
  subst same
  refine bind_of_error ?_
  rw [Action.onMemory, refused]

/-- A list with a block on either side of the sentinel refuses the one below it, although the search
begins at the block above. -/
theorem refuses_listed_below_sentinel :
    ∃ list memory blocks, Holds list memory blocks ∧
      blocks = [{ header := 4128, units := 2 }, { header := 4032, units := 2 }] ∧
      insert { list with rover := 4128 } 4032 memory = .error (.alreadyFree 4032) memory := by
  have created : Reaches 4096 _ _ ∅ := .create {} ⟨by decide, by decide, by decide⟩ rfl
  have above := Reaches.call (.extend 4128 2) created rfl
    ⟨by rintro _ ⟨⟩; exact ⟨⟨by decide, by decide, by decide⟩, by decide, by decide⟩,
      by rintro _ ⟨⟩; exact List.forall_mem_nil _, nofun⟩ rfl
  have below := Reaches.call (.extend 4032 2) above rfl
    ⟨by rintro _ ⟨⟩; exact ⟨⟨by decide, by decide, by decide⟩, by decide, by decide⟩,
      by rintro _ ⟨⟩; exact List.forall_mem_singleton.mpr (by decide), nofun⟩ rfl
  obtain ⟨list, memory, units, listed, reached⟩ : ∃ list memory units,
      list.blocks memory =
        .ok [{ header := 4128, units := 2 }, { header := 4032, units := 2 }] ∧
      Reaches 4096 list memory units := ⟨_, _, _, rfl, below⟩
  obtain ⟨blocks, holds, -, -⟩ := reached.exists_holds
  rw [holds.blocks_eq] at listed
  cases listed
  -- The second block is the one below the sentinel.
  obtain ⟨-, refuses⟩ := holds.refuses_listed (List.mem_cons_of_mem _ List.mem_cons_self)
  obtain ⟨-, refused, -⟩ := refuses 4128 (List.mem_cons_of_mem _ List.mem_cons_self)
  exact ⟨list, memory, _, holds, rfl, refused⟩

end FreeList

end NextFit
