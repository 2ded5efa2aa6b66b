/-
This file proves how every resize of a live block ends. A new size of zero frees the
block. A block that is large enough and well aligned stays where it is and gives up the
units that it does not need. Any other one is served by a request for a new block: the
contents move there and the old block is freed. If there is no new block, the old one
stays live with all that is in it.
-/

import NextFit.Proofs.Heap.Usage

namespace NextFit

variable {G E : Type} [Grower G E] {fresh : G} {before session after : Session G E}
  {list listAfter : FreeList} {blocks blocksAfter : List FreeBlock} {lent lentAfter : Finset Nat}
  {grants : List Grant} {grant moved : Grant} {size alignment : Word}

/-! ### What a resize leaves -/

/-- A step made some units free, besides those that were free already. The free blocks are the runs
of all of them, so that these units are merged with their neighbours. -/
def Frees (before after : Session G E) (units : Finset Nat) : Prop :=
  ∃ blocks blocksAfter, before.heap.freeBlocks = .ok (some blocks) ∧
    after.heap.freeBlocks = .ok (some blocksAfter) ∧ Disjoint units (freeUnits blocks) ∧
    freeUnits blocksAfter = units ∪ freeUnits blocks ∧
    ∀ block, block ∈ blocksAfter ↔ block.IsRun (units ∪ freeUnits blocks)

/-- A block stayed where it is with some of its units, and with the contents of these. The units
above them are free. -/
structure StaysWith (before after : Session G E) (payload : Address) (kept : Word) : Prop where
  header_eq : after.heap.memory.header (headerBelow payload) = { next := liveTag, size := kept }
  contents : after.heap.memory.read payload (16 * (kept.toNat - 1)) =
    before.heap.memory.read payload (16 * (kept.toNat - 1))
  frees : Frees before after (stretch ((headerBelow payload).above kept)
    (before.heap.memory.size (headerBelow payload) - kept))
  quiet : Quiet before after

/-- The contents of a block are in another block of some units now, up to a number of bytes. The
units of the old block are free. -/
structure MovesFrom (before after : Session G E) (payload moved : Address) (units size : Word) :
    Prop where
  header_eq : after.heap.memory.header (headerBelow moved) = { next := liveTag, size := units }
  apart : Disjoint (stretch (headerBelow moved) units)
    (stretch (headerBelow payload) (before.heap.memory.size (headerBelow payload)))
  contents : ∀ length, length = min
      (16 * ((before.heap.memory.size (headerBelow payload)).toNat - 1)) size.toNat →
    after.heap.memory.read moved length = before.heap.memory.read payload length
  freed : ∃ blocks, after.heap.freeBlocks = .ok (some blocks) ∧
    stretch (headerBelow payload) (before.heap.memory.size (headerBelow payload)) ⊆
      freeUnits blocks

theorem Balanced.frees (balanced : Balanced fresh before list blocks lent)
    (balancedAfter : Balanced fresh after listAfter blocksAfter lentAfter) {units : Finset Nat}
    (subset : units ⊆ lent) (sum : freeUnits blocksAfter = units ∪ freeUnits blocks) :
    Frees before after units := by
  refine ⟨blocks, blocksAfter, balanced.freeBlocks_eq, balancedAfter.freeBlocks_eq,
    balanced.apart.mono_left subset, sum, fun block => ?_⟩
  rw [← sum]
  exact balancedAfter.holds.canonical.mem_iff_isRun

theorem CutsDown.staysWith
    (cuts : CutsDown fresh session after blocks lent grant (unitsFor size))
    (balanced : Balanced fresh session list blocks lent)
    (live : grant.Live session.heap.memory) (subset : grant.stretch ⊆ lent) (nonzero : size ≠ 0)
    (fits : size.toNat + 15 < 2 ^ 64) (enough : unitsFor size ≤ unitsFor grant.size)
    (aligned : alignment.toNat ∣ grant.payload.toNat) :
    StaysWith session after grant.payload (unitsFor size) := by
  obtain ⟨listAfter, blocksAfter, balancedAfter, sum⟩ := cuts.balanced
  have shrunk := (cuts.handsOut live nonzero fits enough aligned).live
  refine ⟨cuts.header_eq, ?_, ?_, cuts.quiet⟩
  · exact (shrunk.read_congr (Nat.le_refl _) fun address body =>
      (cuts.contents address body).symm).symm
  · rw [live.size_eq]
    exact balanced.frees balancedAfter ((live.lies.stretch_above_subset enough).trans subset) sum

omit [Grower G E] in
/-- A block that stays where it is keeps the bytes in the units that it keeps. -/
theorem StaysWith.read_eq {payload : Address} {kept : Word}
    (stays : StaysWith session after payload kept) {length : Nat}
    (short : length ≤ 16 * (kept.toNat - 1)) :
    after.heap.memory.read payload length = session.heap.memory.read payload length := by
  rw [← Memory.read_take _ _ short, stays.contents, Memory.read_take _ _ short]

theorem MovesTo.movesFrom (moves : MovesTo fresh session after lent grant moved)
    (live : grant.Live session.heap.memory) :
    MovesFrom session after grant.payload moved.payload (unitsFor moved.size) moved.size := by
  obtain ⟨list, blocks, balanced, subset⟩ := moves.freed
  refine ⟨moves.hands.live.header_eq, ?_, ?_, blocks, balanced.freeBlocks_eq, ?_⟩ <;>
    rw [live.size_eq]
  · exact moves.apart
  · exact moves.contents
  · exact subset

/-! ### Resizes of live blocks -/

/-- A live block that is freed becomes free units. -/
theorem Reached.release_frees (reached : Reached fresh grants session)
    (sound : Grower.Sound fresh) (member : grant ∈ grants) :
    ∃ after, Heap.release (some grant.payload) session = .ok () after ∧
      Frees session after (stretch (headerBelow grant.payload)
        (session.heap.memory.size (headerBelow grant.payload))) := by
  have sustained := reached.sustained sound
  have live := sustained.live grant member
  have subset := stretch_subset_lentTo member
  obtain ⟨list, blocks, balanced⟩ := sustained.exists_balanced_of_mem member
  obtain ⟨after, released, takesBack⟩ := balanced.release live subset
  obtain ⟨listAfter, blocksAfter, balancedAfter, -, sum⟩ := takesBack.balanced
  refine ⟨after, released, ?_⟩
  rw [live.size_eq]
  exact balanced.frees balancedAfter subset sum

section Reached

variable (reached : Reached fresh grants session) (sound : Grower.Sound fresh)
  (member : grant ∈ grants) (power : isPowerOfTwo alignment = true)

include reached member power

/-- A resize that is answered settles the grants. -/
theorem Reached.resized {answer : Option Address}
    (resized : Heap.resizeAligned (some grant.payload) size alignment session =
      .ok answer after) :
    Reached fresh ((Request.resizeAligned (some grant.payload) size alignment).settle grants answer)
      after := by
  have legal : (Request.resizeAligned (some grant.payload) size alignment).Legal grants session :=
    ⟨by rintro _ ⟨⟩; exact ⟨grant, member, rfl⟩, power, nofun⟩
  exact reached.answered legal resized

include sound

/-- With a new size of zero the block is freed. -/
theorem Reached.resize_frees :
    ∃ after, Heap.release (some grant.payload) session = .ok () after ∧
      Heap.resizeAligned (some grant.payload) 0 alignment session = .ok none after ∧
      Frees session after (stretch (headerBelow grant.payload)
        (session.heap.memory.size (headerBelow grant.payload))) ∧
      Reached fresh (Request.without (some grant.payload) grants) after := by
  obtain ⟨after, released, frees⟩ := reached.release_frees sound member
  have resized : Heap.resizeAligned (some grant.payload) 0 alignment session = .ok none after := by
    rw [Heap.resizeAligned_zero, bind_of_ok released]
    rfl
  exact ⟨after, released, resized, frees, reached.resized member power resized⟩

variable (nonzero : size ≠ 0) {units : Word} (needed : blockUnits size = .ok (some units))

include nonzero needed

/-- A block that is large enough and well aligned stays where it is. -/
theorem Reached.resize_stays
    (enough : units ≤ session.heap.memory.size (headerBelow grant.payload))
    (aligned : alignment.toNat ∣ grant.payload.toNat) :
    ∃ after, Heap.resizeAligned (some grant.payload) size alignment session =
        .ok (some grant.payload) after ∧
      StaysWith session after grant.payload units ∧
      Reached fresh ({ payload := grant.payload, size, alignment } ::
        Request.without (some grant.payload) grants) after := by
  have sustained := reached.sustained sound
  have live := sustained.live grant member
  have subset := stretch_subset_lentTo member
  obtain ⟨list, blocks, balanced⟩ := sustained.exists_balanced_of_mem member
  obtain ⟨fits, rfl⟩ := fits_of_blockUnits needed
  rw [live.size_eq] at enough
  obtain ⟨after, resized, cuts⟩ :=
    balanced.resizeAligned_stays nonzero fits power live subset enough aligned
  exact ⟨after, resized, cuts.staysWith balanced live subset nonzero fits enough aligned,
    reached.resized member power resized⟩

/-- Any other block is served by a request for a new one, and its contents move there. -/
theorem Reached.resize_moves
    (unfit : ¬(units ≤ session.heap.memory.size (headerBelow grant.payload) ∧
      alignment.toNat ∣ grant.payload.toNat)) :
    match Heap.allocateAligned size alignment session with
    | .error fault after =>
      Heap.resizeAligned (some grant.payload) size alignment session = .error fault after
    | .ok none after =>
      Heap.resizeAligned (some grant.payload) size alignment session = .ok none after
    | .ok (some moved) _ => ∃ after,
      Heap.resizeAligned (some grant.payload) size alignment session = .ok (some moved) after ∧
        MovesFrom session after grant.payload moved units size ∧
        Reached fresh ({ payload := moved, size, alignment } ::
          Request.without (some grant.payload) grants) after := by
  have sustained := reached.sustained sound
  have live := sustained.live grant member
  have subset := stretch_subset_lentTo member
  obtain ⟨fits, rfl⟩ := fits_of_blockUnits needed
  rw [live.size_eq] at unfit
  have resize := Heap.resizeAligned_moves nonzero fits power live unfit
  have ends : Ends (Heap.allocateAligned size alignment session) _ _ :=
    sustained.kept.allocateAligned_ends sound power
  cases allocated : Heap.allocateAligned size alignment session with
  | error fault after => exact resize.trans (Heap.move_of_error allocated)
  | ok answer middle =>
    cases answer with
    | none => exact resize.trans (Heap.move_of_none allocated)
    | some moved =>
      rw [allocated] at ends
      obtain ⟨after, result, moves⟩ := HandsOut.move ends live subset allocated
      have resized := resize.trans result
      exact ⟨after, resized, moves.movesFrom live, reached.resized member power resized⟩

end Reached

/-- A resize to a size other than zero answers with nothing only if the size is too large or a
request for a new block does so. -/
theorem Reached.resize_refusal (reached : Reached fresh grants session)
    (sound : Grower.Sound fresh) (member : grant ∈ grants) (power : isPowerOfTwo alignment = true)
    (nonzero : size ≠ 0)
    (nothing : Heap.resizeAligned (some grant.payload) size alignment session = .ok none after) :
    blockUnits size = .ok none ∧ after = session ∨
      Heap.allocateAligned size alignment session = .ok none after := by
  -- A block that stays where it is, or whose contents move, is an answer.
  by_cases fits : size.toNat + 15 < 2 ^ 64
  · have needed : blockUnits size = .ok (some (unitsFor size)) := by
      rw [blockUnits_eq, if_pos fits]
    by_cases stays : unitsFor size ≤ session.heap.memory.size (headerBelow grant.payload) ∧
        alignment.toNat ∣ grant.payload.toNat
    · obtain ⟨other, resized, -⟩ :=
        reached.resize_stays sound member power nonzero needed stays.1 stays.2
      rw [nothing] at resized
      cases resized
    · have moves := reached.resize_moves sound member power nonzero needed stays
      cases allocated : Heap.allocateAligned size alignment session with
      | error fault other =>
        rw [allocated, nothing] at moves
        cases moves
      | ok answer other =>
        rw [allocated] at moves
        cases answer with
        | none =>
          rw [nothing] at moves
          cases moves
          exact Or.inr rfl
        | some moved =>
          obtain ⟨later, resized, -⟩ := moves
          rw [nothing] at resized
          cases resized
  · have refused : Heap.resizeAligned (some grant.payload) size alignment session = _ :=
      Heap.resizeAligned_tooLarge alignment fits session
    rw [nothing] at refused
    cases refused
    exact Or.inl ⟨by rw [blockUnits_eq, if_neg fits], rfl⟩

/-- Without a new block the old one stays live and as it was. -/
theorem Reached.resize_keeps (reached : Reached fresh grants session) (sound : Grower.Sound fresh)
    (member : grant ∈ grants) (power : isPowerOfTwo alignment = true) (nonzero : size ≠ 0)
    (nothing : Heap.resizeAligned (some grant.payload) size alignment session = .ok none after) :
    Reached fresh grants after ∧
      after.heap.memory.header (headerBelow grant.payload) =
        session.heap.memory.header (headerBelow grant.payload) ∧
      ∀ length, length =
          16 * ((session.heap.memory.size (headerBelow grant.payload)).toNat - 1) →
        after.heap.memory.read grant.payload length =
          session.heap.memory.read grant.payload length := by
  have sustained := reached.sustained sound
  have live := sustained.live grant member
  have subset := stretch_subset_lentTo member
  have same : (Request.resizeAligned (some grant.payload) size alignment).settle grants none =
      grants := if_neg nonzero
  have ends : Ends (Heap.resizeAligned (some grant.payload) size alignment session) _ _ :=
    sustained.kept.resizeAligned_ends sound live subset power
  rw [nothing] at ends
  have keeps : Keeps fresh session after
    (if size = 0 then lentTo grants \ grant.stretch else lentTo grants) := ends
  rw [if_neg nonzero] at keeps
  refine ⟨same ▸ reached.resized member power nothing,
    keeps.spares _ (subset grant.header_mem), fun length most => ?_⟩
  rw [live.size_eq] at most
  exact live.read_congr (Nat.le_of_eq most) fun address body =>
    keeps.spares address (subset (grant.body_subset body))

/-- In every state that a use of a heap over a sound grower leads to, a resize of a live block to
any size at any alignment ends in one of these ways. Without a block it is a request for one. -/
theorem Reached.resize_ends (reached : Reached fresh grants session) (sound : Grower.Sound fresh)
    (member : grant ∈ grants) (power : isPowerOfTwo alignment = true) (size : Word) :
    (∃ after, Heap.release (some grant.payload) session = .ok () after ∧
      Heap.resizeAligned (some grant.payload) 0 alignment session = .ok none after ∧
      Frees session after (stretch (headerBelow grant.payload)
        (session.heap.memory.size (headerBelow grant.payload))) ∧
      Reached fresh (Request.without (some grant.payload) grants) after) ∧
    (∀ units, size ≠ 0 → blockUnits size = .ok (some units) →
      units ≤ session.heap.memory.size (headerBelow grant.payload) →
      alignment.toNat ∣ grant.payload.toNat →
      ∃ after, Heap.resizeAligned (some grant.payload) size alignment session =
          .ok (some grant.payload) after ∧
        StaysWith session after grant.payload units ∧
        Reached fresh ({ payload := grant.payload, size, alignment } ::
          Request.without (some grant.payload) grants) after) ∧
    (∀ units, size ≠ 0 → blockUnits size = .ok (some units) →
      ¬(units ≤ session.heap.memory.size (headerBelow grant.payload) ∧
        alignment.toNat ∣ grant.payload.toNat) →
      match Heap.allocateAligned size alignment session with
      | .error fault after =>
        Heap.resizeAligned (some grant.payload) size alignment session = .error fault after
      | .ok none after =>
        Heap.resizeAligned (some grant.payload) size alignment session = .ok none after
      | .ok (some moved) _ => ∃ after,
        Heap.resizeAligned (some grant.payload) size alignment session = .ok (some moved) after ∧
          MovesFrom session after grant.payload moved units size ∧
          Reached fresh ({ payload := moved, size, alignment } ::
            Request.without (some grant.payload) grants) after) ∧
    (∀ after, size ≠ 0 →
      Heap.resizeAligned (some grant.payload) size alignment session = .ok none after →
      (blockUnits size = .ok none ∧ after = session ∨
        Heap.allocateAligned size alignment session = .ok none after) ∧
      Reached fresh grants after ∧
      after.heap.memory.header (headerBelow grant.payload) =
        session.heap.memory.header (headerBelow grant.payload) ∧
      ∀ length, length =
          16 * ((session.heap.memory.size (headerBelow grant.payload)).toNat - 1) →
        after.heap.memory.read grant.payload length =
          session.heap.memory.read grant.payload length) ∧
    (Heap.resizeAligned none size alignment : Action G E (Option Address)) =
      Heap.allocateAligned size alignment :=
  ⟨reached.resize_frees sound member power,
    fun _ nonzero needed => reached.resize_stays sound member power nonzero needed,
    fun _ nonzero needed => reached.resize_moves sound member power nonzero needed,
    fun _ nonzero nothing => ⟨reached.resize_refusal sound member power nonzero nothing,
      reached.resize_keeps sound member power nonzero nothing⟩, Heap.resizeAligned_none⟩

/-- In a small buffer a block of four units for 40 bytes is cut down to two for 8 bytes, and its
contents move if it is to have 100 bytes. -/
theorem resize_ends_smallBuffer :
    ∃ (grants : List Grant) (session after larger : Session FixedBuffer Exhausted)
        (moved : Address), Reached smallBuffer grants session ∧
      session.heap.memory.size (headerBelow 4128) = 4 ∧
      Heap.resizeAligned (some 4128) 8 16 session = .ok (some 4128) after ∧
      StaysWith session after 4128 2 ∧
      Heap.resizeAligned (some 4128) 100 16 session = .ok (some moved) larger ∧
      MovesFrom session larger 4128 moved 8 100 := by
  have reached := (Reached.start {} : Reached smallBuffer [] _).serve (.allocate 40)
    ⟨nofun, rfl, nofun⟩
  obtain ⟨grants, session, reached, listed, four, moved, middle, allocated⟩ :
      ∃ (grants : List Grant) (session : Session FixedBuffer Exhausted),
        Reached smallBuffer grants session ∧ ⟨4128, 40, 16⟩ ∈ grants ∧
          session.heap.memory.size (headerBelow 4128) = 4 ∧
          ∃ moved middle, Heap.allocateAligned 100 16 session = .ok (some moved) middle :=
    ⟨_, _, reached, by decide +kernel, by decide +kernel, _, _, rfl⟩
  have sound := FixedBuffer.sound smallBuffer_fresh
  have power : isPowerOfTwo 16 = true := by decide
  obtain ⟨-, stays, -⟩ := reached.resize_ends sound listed power 8
  obtain ⟨-, -, moves, -⟩ := reached.resize_ends sound listed power 100
  obtain ⟨after, shrunk, cut, -⟩ :=
    stays 2 (by decide) (by decide +kernel) (four ▸ by decide) (by decide)
  have unfit : ¬((8 : Word) ≤ session.heap.memory.size (headerBelow 4128) ∧
      (16 : Word).toNat ∣ (4128 : Address).toNat) := by
    rw [four]
    decide
  replace moves := moves 8 (by decide) (by decide +kernel) unfit
  rw [allocated] at moves
  obtain ⟨larger, resized, placed, -⟩ := moves
  exact ⟨grants, session, after, larger, moved, reached, four, shrunk, cut, resized, placed⟩

end NextFit
