/-
This file proves that a payload which was freed cannot be freed once more, as long as the
unit of its header is not handed out again. When a block is freed its header loses the tag,
even if the block disappears into its neighbour. From then on the unit belongs to the heap,
and the heap writes tags to no units but those of blocks that it hands out.
-/

import NextFit.Proofs.Heap.Uses

namespace NextFit

variable {G E : Type} [Grower G E] {fresh : G} {session later after : Session G E}
  {list : FreeList} {blocks : List FreeBlock} {lent : Finset Nat}
  {grants grantsAfter : List Grant} {grant : Grant} {exchanges : List Exchange} {request : Request}
  {payload : Address} {size alignment : Word} {answer : Option Address}

/-! ### Headers without a tag -/

/-- A header stands in memory that came from the grower and is lent to nobody, and it has no tag. -/
structure Disowned (grants : List Grant) (session : Session G E) (header : Address) : Prop where
  owned : unitOf header ∈ owned (grown session.log)
  unlent : unitOf header ∉ lentTo grants
  cleared : (session.heap.memory.header header).isTagged = false

omit [Grower G E] in
/-- A payload with such a header is not freed. -/
theorem Heap.release_of_cleared (free : session.heap.free = some list)
    (cleared : (session.heap.memory.header (headerBelow payload)).isTagged = false) :
    Heap.release (some payload) session = .error (.notAllocated payload) session := by
  have header : (Action.headerAt (headerBelow payload) : Action G E Header) session =
      .ok (session.heap.memory.header (headerBelow payload)) session := rfl
  unfold Heap.release
  dsimp only
  rw [get_bind, free]
  dsimp only
  rw [bind_of_ok header, if_neg (by rw [cleared]; exact Bool.false_ne_true)]
  rfl

theorem Disowned.release_eq {header : Address} (disowned : Disowned grants session header)
    (kept : Kept fresh session lent) (below : headerBelow payload = header) :
    Heap.release (some payload) session = .error (.notAllocated payload) session := by
  cases kept with
  | idle idle =>
    have owned := disowned.owned
    rw [idle.nothing] at owned
    exact absurd owned (Finset.notMem_empty _)
  | balanced balanced =>
    exact Heap.release_of_cleared balanced.free (below ▸ disowned.cleared)

/-! ### What frees a block -/

/-- A request has freed the block of a payload that was handed in: the payload is live no more. -/
structure Request.Freed (request : Request) (grants : List Grant) (answer : Option Address)
    (payload : Address) : Prop where
  given : request.given = some payload
  gone : ∀ other ∈ request.settle grants answer, other.payload ≠ payload

/-- A block that was freed lost its tag. -/
theorem TakesBack.disowned (takesBack : TakesBack fresh session after list blocks (lentTo grants)
      { header := grant.header, units := unitsFor grant.size })
    (sustained : Sustained fresh grants session) (member : grant ∈ grants) :
    Disowned (Request.without (some grant.payload) grants) after grant.header := by
  have here := stretch_subset_lentTo member grant.header_mem
  refine ⟨owned_grown_mono takesBack.confined.log (sustained.kept.subset_owned here), ?_,
    takesBack.cleared⟩
  rw [lentTo_without sustained.apart member, Finset.mem_sdiff, not_and_not_right]
  exact fun _ => grant.header_mem

/-- So did one whose contents have moved. -/
theorem MovesTo.disowned {moved : Grant}
    (moves : MovesTo fresh session after (lentTo grants) grant moved)
    (sustained : Sustained fresh grants session) (member : grant ∈ grants) :
    Disowned (moved :: Request.without (some grant.payload) grants) after grant.header := by
  have here := stretch_subset_lentTo member grant.header_mem
  have both : lentTo (moved :: Request.without (some grant.payload) grants) =
      moved.stretch ∪ lentTo (Request.without (some grant.payload) grants) := rfl
  refine ⟨owned_grown_mono moves.hands.confined.log (sustained.kept.subset_owned here), ?_,
    moves.cleared⟩
  rw [both, lentTo_without sustained.apart member, Finset.mem_union, Finset.mem_sdiff, not_or,
    not_and_not_right]
  exact ⟨Finset.disjoint_right.mp moves.apart grant.header_mem, fun _ => grant.header_mem⟩

theorem Sustained.resizeAligned_disowned (sustained : Sustained fresh grants session)
    (sound : Grower.Sound fresh) (member : grant ∈ grants)
    (power : isPowerOfTwo alignment = true)
    (freed : (Request.resizeAligned (some grant.payload) size alignment).Freed grants answer
      grant.payload)
    (resized : Heap.resizeAligned (some grant.payload) size alignment session =
      .ok answer after) :
    Disowned ((Request.resizeAligned (some grant.payload) size alignment).settle grants answer)
      after grant.header := by
  have live := sustained.live grant member
  have subset := stretch_subset_lentTo member
  cases answer with
  | some payload =>
    have elsewhere : payload ≠ grant.payload := freed.gone _ List.mem_cons_self
    exact (sustained.kept.resizeAligned_elsewhere sound live subset power resized
      elsewhere).disowned sustained member
  | none =>
    -- A refusal frees nothing unless the new size is zero.
    have zero : size = 0 := by
      by_contra nonzero
      refine freed.gone grant ?_ rfl
      show grant ∈ (if size = 0 then _ else grants)
      rw [if_neg nonzero]
      exact member
    subst zero
    obtain ⟨list, blocks, balanced⟩ := sustained.exists_balanced_of_mem member
    obtain ⟨later, released, takesBack⟩ := balanced.release live subset
    rw [Heap.resizeAligned_zero, bind_of_ok released] at resized
    cases resized
    exact takesBack.disowned sustained member

/-- Whatever request has freed a block, its header has lost the tag. -/
theorem Sustained.disowned (sustained : Sustained fresh grants session)
    (sound : Grower.Sound fresh) (legal : request.Legal grants session)
    (freed : request.Freed grants answer payload) (ran : request.run session = .ok answer after) :
    Disowned (request.settle grants answer) after (headerBelow payload) := by
  have given := freed.given
  obtain ⟨grant, member, rfl⟩ := legal.given payload given
  have power := legal.power
  cases request with
  | resize given' size =>
    obtain rfl : given' = some grant.payload := given
    exact sustained.resizeAligned_disowned sound member power ⟨rfl, freed.gone⟩ ran
  | resizeAligned given' size alignment =>
    obtain rfl : given' = some grant.payload := given
    exact sustained.resizeAligned_disowned sound member power freed ran
  | release given' =>
    obtain rfl : given' = some grant.payload := given
    obtain ⟨list, blocks, balanced⟩ := sustained.exists_balanced_of_mem member
    obtain ⟨later, released, takesBack⟩ :=
      balanced.release (sustained.live grant member) (stretch_subset_lentTo member)
    replace ran : (Heap.release (some grant.payload) >>= fun _ => return none) session =
      .ok answer after := ran
    rw [bind_of_ok released] at ran
    cases ran
    exact takesBack.disowned sustained member
  | _ => cases given

/-! ### What keeps it so -/

/-- As long as the unit is not handed out, no use of the heap puts a tag there. -/
theorem Disowned.uses {header : Address} (disowned : Disowned grants session header)
    (reached : Reached fresh grants session) (sound : Grower.Sound fresh)
    (uses : Uses grants session exchanges grantsAfter after)
    (spared : ∀ exchange ∈ exchanges, ∀ grant ∈ exchange.granted, unitOf header ∉ grant.stretch) :
    Disowned grantsAfter after header := by
  induction uses with
  | done => exact disowned
  | @call exchanges grantsLater later uses request call legal inductionHypothesis =>
    obtain ⟨here, before⟩ := List.forall_mem_cons.mp spared
    obtain ⟨owned, unlent, cleared⟩ := inductionHypothesis before
    have sustained := (reached.uses uses).sustained sound
    obtain ⟨-, confined⟩ := sustained.serve_spares sound legal call
    have unlentAfter : unitOf header ∉ lentTo (request.serve grantsLater later).1 := by
      intro inside
      obtain ⟨grant, member, inBlock⟩ := mem_lentTo.mp inside
      rcases Request.mem_serve member with old | new
      · exact unlent (stretch_subset_lentTo old inBlock)
      · exact here grant new inBlock
    refine ⟨owned_grown_mono confined.log owned, unlentAfter, ?_⟩
    rw [← Bool.not_eq_true]
    intro tagged
    rw [confined.tags header unlentAfter tagged] at cleared
    cases cleared
  | store uses address value legal inductionHypothesis =>
    obtain ⟨owned, unlent, cleared⟩ := inductionHypothesis spared
    have live := ((reached.uses uses).sustained sound).live
    have same := legal.header_store live fun grant member body =>
      unlent (stretch_subset_lentTo member (grant.body_subset body))
    exact ⟨owned, unlent, (congrArg Header.isTagged same).trans cleared⟩
  | elsewhere uses same inductionHypothesis =>
    obtain ⟨owned, unlent, cleared⟩ := inductionHypothesis spared
    exact ⟨owned, unlent, (congrArg Header.isTagged (same _ owned)).trans cleared⟩

/-! ### The second time -/

/-- A payload over a sound grower that was freed, in whichever way, is not freed once more for as
long as the unit of its header is in no block that is handed out. The call stops at a fault and
leaves everything as it is. -/
theorem Reached.double_free_caught (reached : Reached fresh grants session)
    (sound : Grower.Sound fresh) (legal : request.Legal grants session)
    (freed : request.Freed grants answer payload) (ran : request.run session = .ok answer later)
    (uses : Uses (request.settle grants answer) later exchanges grantsAfter after)
    (spared : ∀ exchange ∈ exchanges, ∀ grant ∈ exchange.granted,
      unitOf (headerBelow payload) ∉ grant.stretch) :
    Heap.release (some payload) after = .error (.notAllocated payload) after ∧
      (Fault.notAllocated payload).message =
        "Freed " ++ Address.text payload ++ ", which is not allocated" := by
  have reachedLater := reached.answered legal ran
  have disowned := (reached.sustained sound).disowned sound legal freed ran
  have kept := ((reachedLater.uses uses).sustained sound).kept
  exact ⟨(disowned.uses reachedLater sound uses spared).release_eq kept rfl, rfl⟩

/-- In a small buffer, a block is freed and disappears into the one below it, of which another one is
handed out. The first block cannot be freed once more. -/
theorem double_free_caught_smallBuffer :
    ∃ (grants grantsAfter : List Grant) (session later after : Session FixedBuffer Exhausted)
        (exchange : Exchange),
      Reached smallBuffer grants session ∧ grants.length = 2 ∧
        (Request.release (some 4224)).run session = .ok none later ∧
        Uses ((Request.release (some 4224)).settle grants none) later [exchange] grantsAfter after ∧
        exchange.answer = .ok (some 4240) ∧
        Heap.release (some 4224) after = .error (.notAllocated 4224) after := by
  have whole := (Reached.start {} : Reached smallBuffer [] _).serve (.allocate 200)
    ⟨nofun, rfl, nofun⟩
  have emptied := whole.serve (.release (some 4128))
    ⟨by rintro _ ⟨⟩; decide +kernel, rfl, nofun⟩
  have twice := (emptied.serve (.allocate 40) ⟨nofun, rfl, nofun⟩).serve (.allocate 40)
    ⟨nofun, rfl, nofun⟩
  obtain ⟨grants, session, reached, two, listed, gone, released, granted⟩ :
      ∃ (grants : List Grant) (session : Session FixedBuffer Exhausted),
        Reached smallBuffer grants session ∧ grants.length = 2 ∧
          (∃ grant ∈ grants, grant.payload = 4224) ∧
          (∀ other ∈ (Request.release (some 4224)).settle grants none, other.payload ≠ 4224) ∧
          (Request.release (some 4224)).reply session = .ok none ∧
          (Request.allocate 20).reply ((Request.release (some 4224)).serve grants session).2 =
            .ok (some 4240) :=
    ⟨_, _, twice, by decide +kernel, by decide +kernel, by decide +kernel, by decide +kernel,
      by decide +kernel⟩
  have legal : (Request.release (some 4224)).Legal grants session :=
    ⟨by rintro _ ⟨⟩; exact listed, rfl, nofun⟩
  have ran := Request.run_of_reply grants released
  have uses : Uses ((Request.release (some 4224)).settle grants none)
      ((Request.release (some 4224)).serve grants session).2 _ _ _ :=
    Uses.done.call (.allocate 20) rfl ⟨nofun, rfl, nofun⟩
  have caught := reached.double_free_caught (FixedBuffer.sound smallBuffer_fresh) legal
    ⟨rfl, gone⟩ ran uses
  refine ⟨_, _, _, _, _, _, reached, two, ran, uses, granted, (caught ?_).1⟩
  rw [List.forall_mem_singleton, granted]
  rintro _ ⟨⟩
  decide

end NextFit
