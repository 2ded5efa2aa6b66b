/-
This file follows a heap whose callers name a layout with every call. They hand in live
blocks with their present layouts only, and they write to their own payloads. Every new
block is aligned and apart from all others, zeroed memory is zero whatever it held before,
and a block keeps its first bytes through any number of resizes, as far as it was never
smaller, whether it stayed where it was or moved, and whatever the others did meanwhile.
-/

import NextFit.Heap.Layout
import NextFit.Proofs.Grower.PageHeap
import NextFit.Proofs.Heap.Uses

namespace NextFit

/-! ### Calls with layouts -/

/-- What a caller may do who names a layout with every call. -/
inductive LayoutCall
  | allocate (layout : Layout)
  | allocateZeroed (layout : Layout)
  | resize (payload : Address) (layout : Layout) (newSize : Word)
  | release (payload : Address) (layout : Layout)

namespace LayoutCall

/-- The block that the caller hands in, with the layout that he names. -/
def handed : LayoutCall → Option Grant
  | resize payload layout _ | release payload layout =>
    some { payload, size := layout.size, alignment := layout.alignment.value }
  | _ => none

/-- The request that a call comes down to. -/
def request : LayoutCall → Request
  | allocate layout | allocateZeroed layout => .allocateAligned layout.size layout.alignment.value
  | resize payload layout newSize => .resizeAligned (some payload) newSize layout.alignment.value
  | release payload _ => .release (some payload)

/-- Does what the caller wants. The answer is a payload if one is handed out. -/
def run {G E : Type} [Grower G E] : LayoutCall → Action G E (Option Address)
  | allocate layout => Heap.allocateFor layout
  | allocateZeroed layout => Heap.allocateZeroedFor layout
  | resize payload layout newSize => Heap.resizeFor (some payload) layout newSize
  | release payload layout => do
    Heap.releaseFor (some payload) layout
    return none

/-- The grants and the session once a call has been served. A call that stopped at a fault has
granted nothing. -/
def serve {G E : Type} [Grower G E] (call : LayoutCall) (grants : List Grant)
    (session : Session G E) : List Grant × Session G E :=
  match call.run session with
  | .ok answer after => (call.request.settle grants answer, after)
  | .error _ after => (grants, after)

/-- A block is handed in only as long as it is live, with the layout that it has then. -/
def Legal (grants : List Grant) (call : LayoutCall) : Prop :=
  ∀ grant ∈ call.handed, grant ∈ grants

instance (grants : List Grant) (call : LayoutCall) : Decidable (call.Legal grants) :=
  inferInstanceAs (Decidable (∀ grant ∈ call.handed, grant ∈ grants))

end LayoutCall

variable {G E : Type} [Grower G E] {fresh : G} {session later after : Session G E}
  {lent : Finset Nat} {grants grantsLater grantsAfter : List Grant} {grant moved : Grant}
  {call : LayoutCall} {layout : Layout} {payload newSize : Word} {sizes : List Word}

/-- The uses of a heap over a fresh grower by callers who name layouts, with the grants that are live.
Memory that did not come from the grower may change at any time. -/
inductive Leased (fresh : G) : List Grant → Session G E → Prop
  | start (memory : Memory) : Leased fresh [] { heap := { memory, grower := fresh } }
  | serve {grants : List Grant} {session : Session G E} : Leased fresh grants session →
      (call : LayoutCall) → call.Legal grants →
      Leased fresh (call.serve grants session).1 (call.serve grants session).2
  | store {grants : List Grant} {session : Session G E} : Leased fresh grants session →
      (address : Address) → (value : UInt8) → (Request.store address value).Legal grants session →
      Leased fresh grants { session with heap := { session.heap with
        memory := session.heap.memory.setByte address value } }
  | elsewhere {grants : List Grant} {session : Session G E} {memory : Memory} :
      Leased fresh grants session →
      (∀ address, unitOf address ∈ owned (grown session.log) →
        memory.header address = session.heap.memory.header address) →
      Leased fresh grants { session with heap := { session.heap with memory } }

/-! ### What a call with a layout does -/

omit [Grower G E] in
theorem LayoutCall.Legal.request (legal : call.Legal grants) (session : Session G E) :
    call.request.Legal grants session := by
  cases call with
  | allocate layout => exact ⟨nofun, layout.alignment.power, nofun⟩
  | allocateZeroed layout => exact ⟨nofun, layout.alignment.power, nofun⟩
  | resize payload layout newSize =>
    exact ⟨by rintro _ ⟨⟩; exact ⟨_, legal _ rfl, rfl⟩, layout.alignment.power, nofun⟩
  | release payload layout =>
    exact ⟨by rintro _ ⟨⟩; exact ⟨_, legal _ rfl, rfl⟩, isPowerOfTwo_headerAlignment, nofun⟩

/-- Zeroed memory is handed out as any memory is, and its bytes are zero. -/
theorem Kept.allocateZeroedFor_ends (kept : Kept fresh session lent) (sound : Grower.Sound fresh)
    (layout : Layout) :
    Ends (Heap.allocateZeroedFor layout session)
      (fun answer after =>
        match answer with
        | some payload =>
          HandsOut fresh session after lent
              { payload, size := layout.size, alignment := layout.alignment.value } ∧
            after.heap.memory.read payload layout.size.toNat =
              List.replicate layout.size.toNat 0
        | none => Keeps fresh session after lent)
      (fun fault after => Keeps fresh session after lent ∧ Stopped fault session after) := by
  have plain : Ends (Heap.allocateFor layout session) _ _ :=
    kept.allocateAligned_ends sound layout.alignment.power
  unfold Heap.allocateZeroedFor
  refine plain.bind fun answer middle ends => ?_
  cases answer with
  | none => exact ends
  | some payload => exact HandsOut.zeroed ends

/-- A call with a layout ends as the request does that it comes down to. -/
theorem Sustained.layoutCall_ends (sustained : Sustained fresh grants session)
    (sound : Grower.Sound fresh) (legal : call.Legal grants) :
    Ends (call.run session) (call.request.Outcome fresh grants session)
      (fun fault after =>
        Keeps fresh session after (lentTo grants) ∧ Stopped fault session after) := by
  have ends := sustained.call_ends sound (legal.request session) (by cases call <;> rfl)
  cases call with
  | allocateZeroed layout =>
    refine call_new (.allocateAligned layout.size layout.alignment.value) rfl
      ((sustained.kept.allocateZeroedFor_ends sound layout).mono (fun answer _ ends => ?_)
        fun _ _ ends => ends)
    cases answer with
    | some payload => exact ends.1
    | none => exact ends
  | allocate layout => exact ends
  | resize payload layout newSize => exact ends
  | release payload layout => exact ends

/-- Whatever a call for a new block hands out is a block for the layout. -/
theorem Sustained.handsOut_new (sustained : Sustained fresh grants session)
    (sound : Grower.Sound fresh) (new : call ∈ [.allocate layout, .allocateZeroed layout])
    (ran : call.run session = .ok (some payload) after) :
    HandsOut fresh session after (lentTo grants)
      { payload, size := layout.size, alignment := layout.alignment.value } := by
  rcases List.mem_pair.mp new with rfl | rfl
  · have ends : Ends ((LayoutCall.allocate layout).run session) _ _ :=
      sustained.kept.allocateAligned_ends sound layout.alignment.power
    rw [ran] at ends
    exact ends
  · have ends : Ends ((LayoutCall.allocateZeroed layout).run session) _ _ :=
      sustained.kept.allocateZeroedFor_ends sound layout
    rw [ran] at ends
    exact ends.1

/-- However a call ends, the books are kept and no block of others is touched. -/
theorem Sustained.serve_layoutCall (sustained : Sustained fresh grants session)
    (sound : Grower.Sound fresh) (legal : call.Legal grants) :
    Sustained fresh (call.serve grants session).1 (call.serve grants session).2 ∧
      Spares session (call.serve grants session).2
        (lentTo (Request.without call.request.given grants)) := by
  have ends := sustained.layoutCall_ends sound legal
  rw [LayoutCall.serve]
  cases ran : call.run session with
  | ok answer later =>
    rw [ran] at ends
    exact ⟨sustained.settled (legal.request session).power ends, Request.Outcome.spares ends⟩
  | error fault later =>
    rw [ran] at ends
    exact ⟨sustained.spared (.refl _) ends.1.kept ends.1.spares,
      ends.1.spares.mono (lentTo_mono List.filter_sublist)⟩

/-- A call for some bytes that gets none leaves everything live and as it is. -/
theorem Sustained.serve_refused (sustained : Sustained fresh grants session)
    (sound : Grower.Sound fresh) (legal : call.Legal grants) (nonzero : call.request.size ≠ 0)
    (nothing : ∀ payload after, call.run session ≠ .ok (some payload) after) :
    (call.serve grants session).1 = grants ∧
      Spares session (call.serve grants session).2 (lentTo grants) := by
  have ends := sustained.layoutCall_ends sound legal
  rw [LayoutCall.serve]
  cases ran : call.run session with
  | ok answer later =>
    rw [ran] at ends
    cases answer with
    | some payload => exact absurd ran (nothing payload later)
    | none =>
      have same : call.request.settle grants none = grants := if_neg nonzero
      have spares : Spares session later (lentTo (call.request.settle grants none)) :=
        Keeps.spares ends
      rw [same] at spares
      exact ⟨same, spares⟩
  | error fault later =>
    rw [ran] at ends
    exact ⟨rfl, ends.1.spares⟩

theorem LayoutCall.mem_serve (member : grant ∈ grants)
    (other : call.request.given ≠ some grant.payload) : grant ∈ (call.serve grants session).1 := by
  unfold serve
  cases call.run session with
  | ok answer after => exact Request.mem_settle member other answer
  | error fault after => exact member

/-- A request for no bytes is refused, whether or not they are to be zero. -/
theorem LayoutCall.run_empty (new : call ∈ [allocate layout, allocateZeroed layout])
    (empty : layout.size = 0) :
    call.run session = .ok none { session with log := session.log ++ [.refusedEmpty] } := by
  have refused : Heap.allocateFor layout session =
      .ok none { session with log := session.log ++ [.refusedEmpty] } := by
    unfold Heap.allocateFor
    rw [empty]
    exact Heap.allocateAligned_zero layout.alignment.power session
  rcases List.mem_pair.mp new with rfl | rfl
  · exact refused
  · exact bind_of_ok refused

/-- At any time the books are kept. -/
theorem Leased.sustained (leased : Leased fresh grants session) (sound : Grower.Sound fresh) :
    Sustained fresh grants session := by
  induction leased with
  | start memory => exact .start fresh memory
  | serve _ call legal inductionHypothesis =>
    exact (inductionHypothesis.serve_layoutCall sound legal).1
  | store _ address value legal inductionHypothesis =>
    obtain ⟨grant, member, usable, computed, low, high⟩ := legal.inside address value rfl
    exact inductionHypothesis.store member computed low high value
  | elsewhere _ same inductionHypothesis =>
    exact inductionHypothesis.written fun address here _ => same address here

/-! ### Chains of resizes -/

/-- What becomes of a block in a use of the heap from some time on, with the new sizes that it was
given, the last one first: it is resized again and again, and in between there are calls
for other blocks, calls for some bytes that get none, and writes to other blocks. -/
inductive Chain (grant : Grant) (grants : List Grant) (session : Session G E) :
    List Word → Grant → List Grant → Session G E → Prop
  | filled : Chain grant grants session [] grant grants session
  | resized {sizes : List Word} {moved : Grant} {grantsLater : List Grant}
      {later after : Session G E} {layout : Layout} {payload newSize : Word} :
      Chain grant grants session sizes moved grantsLater later →
      (LayoutCall.resize moved.payload layout newSize).Legal grantsLater →
      (LayoutCall.resize moved.payload layout newSize).run later = .ok (some payload) after →
      Chain grant grants session (newSize :: sizes)
        { payload, size := newSize, alignment := layout.alignment.value }
        ((LayoutCall.resize moved.payload layout newSize).serve grantsLater later).1 after
  | refused {sizes : List Word} {moved : Grant} {grantsLater : List Grant}
      {later : Session G E} : Chain grant grants session sizes moved grantsLater later →
      (call : LayoutCall) → call.Legal grantsLater → call.request.size ≠ 0 →
      (∀ payload after, call.run later ≠ .ok (some payload) after) →
      Chain grant grants session sizes moved (call.serve grantsLater later).1
        (call.serve grantsLater later).2
  | other {sizes : List Word} {moved : Grant} {grantsLater : List Grant}
      {later : Session G E} : Chain grant grants session sizes moved grantsLater later →
      (call : LayoutCall) → call.Legal grantsLater → call.request.given ≠ some moved.payload →
      Chain grant grants session sizes moved (call.serve grantsLater later).1
        (call.serve grantsLater later).2
  | store {sizes : List Word} {moved : Grant} {grantsLater : List Grant}
      {later : Session G E} : Chain grant grants session sizes moved grantsLater later →
      (address : Address) → (value : UInt8) →
      (Request.store address value).Legal (Request.without (some moved.payload) grantsLater)
        later →
      Chain grant grants session sizes moved grantsLater { later with heap := { later.heap with
        memory := later.heap.memory.setByte address value } }
  | elsewhere {sizes : List Word} {moved : Grant} {grantsLater : List Grant}
      {later : Session G E} {memory : Memory} :
      Chain grant grants session sizes moved grantsLater later →
      (∀ address, unitOf address ∈ owned (grown later.log) →
        memory.header address = later.heap.memory.header address) →
      Chain grant grants session sizes moved grantsLater
        { later with heap := { later.heap with memory } }

/-- The least of the sizes that a block has had. -/
def leastSize (first : Word) (later : List Word) : Word :=
  later.foldr min first

/-- A chain is a part of the use of the heap. -/
theorem Leased.chain (leased : Leased fresh grants session)
    (chain : Chain grant grants session sizes moved grantsAfter after) :
    Leased fresh grantsAfter after := by
  induction chain with
  | filled => exact leased
  | @resized sizes moved grantsLater later after layout payload newSize _ legal ran
      inductionHypothesis =>
    have served := inductionHypothesis.serve (.resize moved.payload layout newSize) legal
    have there : ((LayoutCall.resize moved.payload layout newSize).serve grantsLater later).2 =
        after := by
      rw [LayoutCall.serve, ran]
    rwa [there] at served
  | refused _ call legal _ _ inductionHypothesis => exact inductionHypothesis.serve call legal
  | other _ call legal _ inductionHypothesis => exact inductionHypothesis.serve call legal
  | store _ address value legal inductionHypothesis =>
    exact inductionHypothesis.store address value (legal.mono List.filter_sublist.subset)
  | elsewhere _ same inductionHypothesis => exact inductionHypothesis.elsewhere same

/-- A block is live and has the alignment of an earlier one. It has the bytes of the earlier one too,
as many as any block had that led from that one to this one. -/
structure Follows (grant : Grant) (session : Session G E) (sizes : List Word) (moved : Grant)
    (grantsAfter : List Grant) (after : Session G E) : Prop where
  member : moved ∈ grantsAfter
  alignment : moved.alignment = grant.alignment
  least : (leastSize grant.size sizes).toNat ≤ moved.size.toNat
  contents : after.heap.memory.read moved.payload (leastSize grant.size sizes).toNat =
    session.heap.memory.read grant.payload (leastSize grant.size sizes).toNat

omit [Grower G E] in
/-- This stays so as long as nobody writes to the payload and the block is live. -/
theorem Follows.spared (follows : Follows grant session sizes moved grantsLater later)
    (live : moved.Live later.heap.memory) (member : moved ∈ grantsAfter)
    (spares : Spares later after moved.stretch) :
    Follows grant session sizes moved grantsAfter after where
  member := member
  alignment := follows.alignment
  least := follows.least
  contents := (live.read_congr (follows.least.trans (size_le moved.size)) fun address body =>
    spares address (moved.body_subset body)).trans follows.contents

/-- A resize hands on the bytes for which the new size has room. -/
theorem Follows.resized (follows : Follows grant session sizes moved grantsLater later)
    (sustained : Sustained fresh grantsLater later) (sound : Grower.Sound fresh)
    (legal : (LayoutCall.resize moved.payload layout newSize).Legal grantsLater)
    (ran : (LayoutCall.resize moved.payload layout newSize).run later =
      .ok (some payload) after) :
    Follows grant session (newSize :: sizes)
      { payload, size := newSize, alignment := layout.alignment.value }
      ((LayoutCall.resize moved.payload layout newSize).serve grantsLater later).1 after := by
  have present : Grant.mk moved.payload layout.size layout.alignment.value = moved :=
    eq_of_payload_eq sustained.apart follows.member (legal _ rfl) rfl
  have least : (leastSize grant.size (newSize :: sizes)).toNat =
      min newSize.toNat (leastSize grant.size sizes).toNat :=
    UInt64.toNat_min _ _
  have new : (leastSize grant.size (newSize :: sizes)).toNat ≤ newSize.toNat :=
    least ▸ Nat.min_le_left _ _
  have short : (leastSize grant.size (newSize :: sizes)).toNat ≤
      (leastSize grant.size sizes).toNat := least ▸ Nat.min_le_right _ _
  have same := sustained.kept.resizeAligned_contents sound
    (sustained.live moved follows.member) (stretch_subset_lentTo follows.member)
    layout.alignment.power ran (short.trans follows.least) new
  refine ⟨?_, (congrArg Grant.alignment present).trans follows.alignment, new, ?_⟩
  · rw [LayoutCall.serve, ran]
    exact List.mem_cons_self
  · rw [same, ← Memory.read_take _ _ short, follows.contents, Memory.read_take _ _ short]

/-- Through all resizes of a block, whatever else happens, its first bytes are handed on. -/
theorem Leased.follows (leased : Leased fresh grants session) (sound : Grower.Sound fresh)
    (member : grant ∈ grants)
    (chain : Chain grant grants session sizes moved grantsAfter after) :
    Follows grant session sizes moved grantsAfter after := by
  induction chain with
  | filled => exact ⟨member, rfl, Nat.le_refl _, rfl⟩
  | resized chain legal ran inductionHypothesis =>
    exact inductionHypothesis.resized ((leased.chain chain).sustained sound) sound legal ran
  | refused chain call legal nonzero nothing inductionHypothesis =>
    have sustained := (leased.chain chain).sustained sound
    have member := inductionHypothesis.member
    obtain ⟨same, spares⟩ := sustained.serve_refused sound legal nonzero nothing
    exact inductionHypothesis.spared (sustained.live _ member) (same.symm ▸ member)
      (spares.mono (stretch_subset_lentTo member))
  | other chain call legal other inductionHypothesis =>
    have sustained := (leased.chain chain).sustained sound
    have member := inductionHypothesis.member
    have left := stretch_subset_lentTo (Request.mem_without_of_ne member other)
    exact inductionHypothesis.spared (sustained.live _ member)
      (LayoutCall.mem_serve member other)
      ((sustained.serve_layoutCall sound legal).2.mono left)
  | @store sizes moved grantsLater later chain address value legal inductionHypothesis =>
    have sustained := (leased.chain chain).sustained sound
    have member := inductionHypothesis.member
    refine inductionHypothesis.spared (sustained.live _ member) member fun unit inside =>
      legal.header_store (fun other listed => sustained.live other (List.mem_of_mem_filter listed))
        fun other listed body => ?_
    -- The block that is written to is another one.
    obtain ⟨otherMember, different⟩ := Request.mem_without.mp listed
    have apart := disjoint_of_ne sustained.apart member otherMember fun equal =>
      different (congrArg Grant.payload equal)
    exact Finset.disjoint_left.mp apart (other.body_subset body) inside
  | elsewhere chain same inductionHypothesis =>
    have sustained := (leased.chain chain).sustained sound
    have member := inductionHypothesis.member
    exact inductionHypothesis.spared (sustained.live _ member) member fun unit inside =>
      same unit (sustained.kept.subset_owned (stretch_subset_lentTo member inside))

/-! ### What the callers can rely on -/

/-- Blocks that have no unit in common have no byte of their payloads in common. -/
theorem Grant.Live.payloads_apart {memory : Memory} {other : Grant} (live : grant.Live memory)
    (otherLive : other.Live memory) (apart : Disjoint grant.stretch other.stretch) :
    grant.payload.toNat + 16 * ((unitsFor grant.size).toNat - 1) ≤ other.payload.toNat ∨
      other.payload.toNat + 16 * ((unitsFor other.size).toNat - 1) ≤ grant.payload.toNat := by
  have place := live.within.1
  have otherPlace := otherLive.within.1
  have units := two_le_unitsFor live.nonzero
  have otherUnits := two_le_unitsFor otherLive.nonzero
  have first := Finset.disjoint_left.mp apart grant.header_mem
  have second := Finset.disjoint_right.mp apart other.header_mem
  rw [Grant.stretch, mem_stretch] at first second
  omega

/-- What callers who name layouts can rely on, at all times. -/
structure ServesLayouts (fresh : G) : Prop where
  /-- A new block is aligned. It has no byte in common with what the owners of other blocks may
  use. -/
  placed {grants : List Grant} {session after : Session G E} {layout : Layout}
    {call : LayoutCall} {payload : Address} : Leased fresh grants session →
    call ∈ [.allocate layout, .allocateZeroed layout] →
    call.run session = .ok (some payload) after →
    layout.alignment.value.toNat ∣ payload.toNat ∧
      payload.toNat + layout.size.toNat ≤ 2 ^ 64 ∧
      ∀ other ∈ grants, ∃ usable, after.heap.usableSize other.payload = .ok usable ∧
        other.size ≤ usable ∧ (payload.toNat + layout.size.toNat ≤ other.payload.toNat ∨
          other.payload.toNat + usable.toNat ≤ payload.toNat)
  /-- Zeroed memory is zero. -/
  zeroed {grants : List Grant} {session after : Session G E} {layout : Layout}
    {payload : Address} : Leased fresh grants session →
    (LayoutCall.allocateZeroed layout).run session = .ok (some payload) after →
    after.heap.memory.read payload layout.size.toNat = List.replicate layout.size.toNat 0
  /-- Wherever a block gets to by resizes, it is aligned as at first and has its first bytes. -/
  handsOn {grants grantsAfter : List Grant} {session after : Session G E} {grant moved : Grant}
    {sizes : List Word} : Leased fresh grants session → grant ∈ grants →
    Chain grant grants session sizes moved grantsAfter after →
    grant.alignment.toNat ∣ moved.payload.toNat ∧
      after.heap.memory.read moved.payload (leastSize grant.size sizes).toNat =
        session.heap.memory.read grant.payload (leastSize grant.size sizes).toNat
  /-- A resize that fails leaves all blocks live, with their headers and all bytes that their owners
  may use. -/
  refused {grants : List Grant} {session after : Session G E} {layout : Layout}
    {payload newSize : Word} : Leased fresh grants session →
    (LayoutCall.resize payload layout newSize).Legal grants → newSize ≠ 0 →
    (LayoutCall.resize payload layout newSize).run session = .ok none after →
    (LayoutCall.resize payload layout newSize).serve grants session = (grants, after) ∧
      ∀ grant ∈ grants, after.heap.memory.header (headerBelow grant.payload) =
          session.heap.memory.header (headerBelow grant.payload) ∧
        ∃ usable, session.heap.usableSize grant.payload = .ok usable ∧
          after.heap.memory.read grant.payload usable.toNat =
            session.heap.memory.read grant.payload usable.toNat
  /-- A request for no bytes is refused. Only the log tells of it. -/
  empty {grants : List Grant} {session : Session G E} {layout : Layout} {call : LayoutCall} :
    Leased fresh grants session → call ∈ [.allocate layout, .allocateZeroed layout] →
    layout.size = 0 →
    call.run session = .ok none { session with log := session.log ++ [.refusedEmpty] }

theorem Grower.Sound.servesLayouts (sound : Grower.Sound fresh) : ServesLayouts fresh where
  placed {grants session after layout call payload} leased new ran := by
    have sustained := leased.sustained sound
    have hands := sustained.handsOut_new sound new ran
    have aligned : layout.alignment.value.toNat ∣ payload.toNat := hands.live.aligned
    have within : payload.toNat + 16 * ((unitsFor layout.size).toNat - 1) ≤ 2 ^ 64 :=
      hands.live.within.2
    have enough := size_le layout.size
    refine ⟨aligned, by omega, fun other member => ?_⟩
    have subset := stretch_subset_lentTo member
    have otherLive := (sustained.live other member).congr
      (hands.spares _ (subset other.header_mem))
    obtain ⟨usable, computed, room⟩ := otherLive.usableSize_eq
    have apart : payload.toNat + 16 * ((unitsFor layout.size).toNat - 1) ≤
          other.payload.toNat ∨
        other.payload.toNat + 16 * ((unitsFor other.size).toNat - 1) ≤ payload.toNat :=
      hands.live.payloads_apart otherLive (hands.apart.mono_right subset)
    refine ⟨usable, computed, ?_, by omega⟩
    rw [UInt64.le_iff_toNat_le, room]
    exact size_le other.size
  zeroed {grants session after layout payload} leased ran := by
    have ends : Ends ((LayoutCall.allocateZeroed layout).run session) _ _ :=
      (leased.sustained sound).kept.allocateZeroedFor_ends sound layout
    rw [ran] at ends
    exact ends.2
  handsOn leased member chain := by
    have follows := leased.follows sound member chain
    have live := ((leased.chain chain).sustained sound).live _ follows.member
    exact ⟨follows.alignment ▸ live.aligned, follows.contents⟩
  refused leased legal nonzero ran := by
    have sustained := leased.sustained sound
    obtain ⟨same, spares⟩ := sustained.serve_refused sound legal nonzero (by rw [ran]; nofun)
    rw [LayoutCall.serve, ran] at same spares ⊢
    exact ⟨congrArg (·, _) same, fun grant member => (sustained.live grant member).spared
      (spares.mono (stretch_subset_lentTo member))⟩
  empty _ new empty := LayoutCall.run_empty new empty

/-- Callers who name layouts can rely on a heap over any sound grower, and so they can on a heap that
maps its pages from a system. -/
theorem layouts_served :
    (∀ {G E : Type} [Grower G E] {fresh : G}, Grower.Sound fresh → ServesLayouts fresh) ∧
    ∀ {S : Type} [Mapper S] {system : S}, Mapper.Sound system →
      ServesLayouts (Heap.ofSystem system).grower :=
  ⟨fun sound => sound.servesLayouts, fun mapper =>
    (PageHeap.sound ⟨mapper, (by decide : (1 : Word) ≠ 0), rfl, rfl⟩).servesLayouts⟩

/-! ### A small buffer with layouts -/

/-- A layout for 24 bytes. -/
def shortLayout : Layout :=
  ⟨24, .header, by decide⟩

/-- A layout for 72 bytes. -/
def longLayout : Layout :=
  ⟨72, .header, by decide⟩

/-- A layout for 16 bytes that are aligned to 64. -/
def wideLayout : Layout :=
  ⟨16, ⟨64, by decide⟩, by decide⟩

/-- A layout for no bytes. -/
def emptyLayout : Layout :=
  ⟨0, .header, by decide⟩

/-- A block for 24 bytes that is written to. It is resized to 60 bytes, for which it moves past a
block that is aligned to 64, and then to 8 bytes. Or else it is freed, and its memory handed out
anew. -/
theorem exists_leased_smallBuffer :
    ∃ (grants : List Grant) (session : Session FixedBuffer Exhausted),
      Leased smallBuffer grants session ∧ ⟨4128, 24, 16⟩ ∈ grants ∧
        session.heap.memory.read 4128 8 = [7, 0, 0, 0, 0, 0, 0, 0] ∧
        (∃ grantsAfter after,
          Chain ⟨4128, 24, 16⟩ grants session [8, 60] ⟨4256, 8, 16⟩ grantsAfter after ∧
            ⟨4224, 16, 64⟩ ∈ grantsAfter) ∧
        ∃ left freed, Leased smallBuffer left freed ∧ ⟨4224, 16, 64⟩ ∈ left ∧
          freed.heap.memory.read 4128 8 = [7, 0, 0, 0, 0, 0, 0, 0] ∧
          (∃ after, (LayoutCall.allocateZeroed longLayout).run freed = .ok (some 4128) after) ∧
          ∃ after, (LayoutCall.resize 4224 wideLayout 4096).run freed = .ok none after := by
  have allocated := (Leased.start {} : Leased smallBuffer [] _).serve (.allocate shortLayout) nofun
  have stored := allocated.store 4128 7 ⟨nofun, rfl, by
    rintro _ _ ⟨⟩
    exact ⟨⟨4128, 24, 16⟩, by decide +kernel, 32, by decide +kernel, by decide, by decide⟩⟩
  have begun : ∀ {grants : List Grant} {session : Session FixedBuffer Exhausted},
      Leased smallBuffer grants session →
        Chain ⟨4128, 24, 16⟩ grants session [] ⟨4128, 24, 16⟩ grants session := fun _ => .filled
  have carved := (begun stored).other (.allocateZeroed wideLayout) nofun nofun
  have longer := carved.resized
    (by decide +kernel : (LayoutCall.resize 4128 shortLayout 60).Legal _) rfl
  have shorter := longer.resized
    (by decide +kernel :
      (LayoutCall.resize 4256 ⟨60, .header, of_decide_eq_true rfl⟩ 8).Legal _) rfl
  have freed := (stored.serve (.allocateZeroed wideLayout) nofun).serve
    (.release 4128 shortLayout) (by decide +kernel)
  exact ⟨_, _, stored, by decide +kernel, by decide +kernel,
    ⟨_, _, shorter, by decide +kernel⟩,
    _, _, freed, by decide +kernel, by decide +kernel, ⟨_, rfl⟩, ⟨_, rfl⟩⟩

/-- In a small buffer a block keeps its first bytes through two resizes. Once it is freed its memory
is handed out anew as zeroed, a resize of the other block to more bytes than there are leaves that
one as it is, and a request for no bytes is refused. A heap over a system of pages hands out a
block that is aligned to 64 first. -/
theorem layouts_served_smallBuffer :
    (∃ (grants grantsAfter : List Grant) (session after : Session FixedBuffer Exhausted),
      Leased smallBuffer grants session ∧
        Chain ⟨4128, 24, 16⟩ grants session [8, 60] ⟨4256, 8, 16⟩ grantsAfter after ∧
        ⟨4224, 16, 64⟩ ∈ grantsAfter ∧
        after.heap.memory.read 4256 8 = [7, 0, 0, 0, 0, 0, 0, 0]) ∧
    (∃ (grants : List Grant) (session zeroed refused : Session FixedBuffer Exhausted),
      Leased smallBuffer grants session ∧
        session.heap.memory.read 4128 8 = [7, 0, 0, 0, 0, 0, 0, 0] ∧
        (LayoutCall.allocateZeroed longLayout).run session = .ok (some 4128) zeroed ∧
        zeroed.heap.memory.read 4128 72 = List.replicate 72 0 ∧
        (LayoutCall.resize 4224 wideLayout 4096).serve grants session = (grants, refused) ∧
        refused.heap.memory.header 4208 = session.heap.memory.header 4208 ∧
        (LayoutCall.allocate emptyLayout).run session =
          .ok none { session with log := session.log ++ [.refusedEmpty] }) ∧
    ∃ (layout : Layout) (payload : Address) (after : Session (PageHeap PlannedMapper) MapError),
      layout.alignment.value = 64 ∧
        (LayoutCall.allocate layout).run { heap := Heap.ofSystem singleMapping } =
          .ok (some payload) after ∧
        64 ∣ payload.toNat := by
  obtain ⟨growers, systems⟩ := layouts_served
  have served : ServesLayouts smallBuffer := growers (FixedBuffer.sound smallBuffer_fresh)
  obtain ⟨grants, session, leased, listed, seven, ⟨grantsAfter, after, resized, aligned⟩,
    left, freed, leasedAfter, other, used, ⟨zeroed, anew⟩, refused, nothing⟩ :=
    exists_leased_smallBuffer
  obtain ⟨-, contents⟩ := served.handsOn leased listed resized
  have legal : (LayoutCall.resize 4224 wideLayout 4096).Legal left := by
    rintro _ ⟨⟩
    exact other
  obtain ⟨same, kept⟩ := served.refused leasedAfter legal (by decide) nothing
  obtain ⟨payload, opened, mapped⟩ : ∃ payload opened, (LayoutCall.allocate wideLayout).run
      ({ heap := Heap.ofSystem singleMapping } : Session (PageHeap PlannedMapper) MapError) =
        .ok (some payload) opened := ⟨_, _, rfl⟩
  have placed := (systems singleMapping_sound).placed (.start {}) List.mem_cons_self mapped
  exact ⟨⟨grants, _, session, _, leased, resized, aligned, contents.trans seven⟩,
    ⟨left, freed, zeroed, refused, leasedAfter, used, anew, served.zeroed leasedAfter anew, same,
      (kept _ other).1, served.empty leasedAfter List.mem_cons_self rfl⟩,
    _, payload, opened, rfl, mapped, placed.1⟩

end NextFit
