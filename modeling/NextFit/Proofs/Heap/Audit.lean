/-
This file replays the log of a heap. An audit starts from nothing and posts what it reads: a
block that is handed out is added, one that is freed is struck out, and one that is cut
down keeps the units that it is said to have left. All that it knows are the records of the
log, as they are written. However the heap is used, no record contradicts what was read
before it, and what is left at the end are the live payloads with the units in their
headers. With the units that are free and the unit of the sentinel they are all that came
from the grower.
-/

import NextFit.Proofs.Heap.Restoring
import NextFit.Proofs.Heap.Trail
import NextFit.Proofs.Reading

namespace NextFit

/-! ### Replaying a log -/

/-- What an audit has read of: the payloads that are live, each with the units of its block. -/
abbrev Ledger := Std.TreeMap Address Word

namespace Ledger

variable {E : Type}

/-- Posts an event. A block that was cut down is told of by its header, which lies right below the
payload. -/
def post (ledger : Ledger) : Event E → Ledger
  | .allocated _ units payload _ => ledger.insert payload units
  | .freeing payload _ => ledger.erase payload
  | .shrank header units => ledger.insert (payloadAbove header) units
  | _ => ledger

/-- An event does not contradict the ledger: a new block has a payload that is not live, a block is
freed with the units that it has, and it is cut down to fewer than these. -/
def Admits (ledger : Ledger) : Event E → Prop
  | .allocated _ _ payload _ => ledger[payload]? = none
  | .freeing payload units => ledger[payload]? = some units
  | .shrank header units => ∃ more, ledger[payloadAbove header]? = some more ∧ units < more
  | _ => True

instance (ledger : Ledger) (event : Event E) : Decidable (ledger.Admits event) :=
  match event with
  | .allocated _ _ payload _ => inferInstanceAs (Decidable (ledger[payload]? = none))
  | .freeing payload units => inferInstanceAs (Decidable (ledger[payload]? = some units))
  | .shrank header units => inferInstanceAs
    (Decidable (∃ more, ledger[payloadAbove header]? = some more ∧ units < more))
  | .grew .. | .growthFailed .. | .refusedEmpty | .tooLarge _ | .tooLargeAligned .. =>
    .isTrue trivial

/-- None of the events contradicts the ledger with the earlier events posted. -/
def Accepts (ledger : Ledger) : List (Event E) → Prop
  | [] => True
  | event :: events => ledger.Admits event ∧ (ledger.post event).Accepts events

instance decidableAccepts (ledger : Ledger) :
    (log : List (Event E)) → Decidable (ledger.Accepts log)
  | [] => .isTrue trivial
  | event :: events =>
    have := decidableAccepts (ledger.post event) events
    inferInstanceAs (Decidable (ledger.Admits event ∧ (ledger.post event).Accepts events))

/-- The units of all payloads. -/
def total (ledger : Ledger) : Nat :=
  (ledger.toList.map fun entry => entry.2.toNat).sum

/-- The ledger knows of the grants, and of no other payloads. -/
def Tells (ledger : Ledger) (grants : List Grant) : Prop :=
  ∀ payload units, ledger[payload]? = some units ↔
    ∃ grant ∈ grants, grant.payload = payload ∧ unitsFor grant.size = units

end Ledger

/-- What an audit of a log ends with. -/
def audit {E : Type} (log : List (Event E)) : Ledger :=
  log.foldl Ledger.post ∅

namespace Ledger

variable {E : Type} {ledger : Ledger} {grants : List Grant} {grant : Grant}

theorem getElem?_insert (ledger : Ledger) (payload other : Address) (units : Word) :
    (ledger.insert payload units)[other]? =
      if payload = other then some units else ledger[other]? := by
  simp only [Std.TreeMap.getElem?_insert, Std.LawfulEqCmp.compare_eq_iff_eq]

theorem getElem?_erase (ledger : Ledger) (payload other : Address) :
    (ledger.erase payload)[other]? = if payload = other then none else ledger[other]? := by
  simp only [Std.TreeMap.getElem?_erase, Std.LawfulEqCmp.compare_eq_iff_eq]

theorem accepts_append (ledger : Ledger) (log events : List (Event E)) :
    ledger.Accepts (log ++ events) ↔
      ledger.Accepts log ∧ (log.foldl post ledger).Accepts events := by
  induction log generalizing ledger with
  | nil => exact (and_iff_right trivial).symm
  | cons event log inductionHypothesis =>
    exact (and_congr_right fun _ => inductionHypothesis _).trans and_assoc.symm

/-- An audit that is told of each event in this way, or not at all, posts the same and misses no
contradiction. -/
structure Replays {D : Type} (tell : Event E → Option (Event D)) : Prop where
  posts (ledger : Ledger) (event : Event E) :
    (tell event).elim ledger ledger.post = ledger.post event
  admits (ledger : Ledger) (event : Event E) :
    (tell event).elim True ledger.Admits ↔ ledger.Admits event

theorem Replays.foldl_post {D : Type} {tell : Event E → Option (Event D)} (replays : Replays tell)
    (ledger : Ledger) (log : List (Event E)) :
    (log.filterMap tell).foldl post ledger = log.foldl post ledger ∧
      (ledger.Accepts (log.filterMap tell) ↔ ledger.Accepts log) := by
  induction log generalizing ledger with
  | nil => exact ⟨rfl, Iff.rfl⟩
  | cons event log inductionHypothesis =>
    have posted := replays.posts ledger event
    have admitted := replays.admits ledger event
    cases told : tell event with
    | none =>
      rw [told] at posted admitted
      obtain ⟨same, accepted⟩ := inductionHypothesis ledger
      rw [List.filterMap_cons_none told, same, accepted]
      show log.foldl post ledger = log.foldl post (ledger.post event) ∧
        (ledger.Accepts log ↔ ledger.Admits event ∧ (ledger.post event).Accepts log)
      rw [← posted]
      exact ⟨rfl, (and_iff_right (admitted.mp trivial)).symm⟩
    | some entry =>
      rw [told] at posted admitted
      obtain ⟨same, accepted⟩ := inductionHypothesis (ledger.post entry)
      rw [List.filterMap_cons_some told]
      show (log.filterMap tell).foldl post (ledger.post entry) =
          log.foldl post (ledger.post event) ∧
        (ledger.Admits entry ∧ (ledger.post entry).Accepts (log.filterMap tell) ↔
          ledger.Admits event ∧ (ledger.post event).Accepts log)
      rw [← posted]
      exact ⟨same, and_congr admitted accepted⟩

theorem replays_isEntry : Replays (Option.guard (Event.isEntry : Event E → Bool)) where
  posts _ event := by cases event <;> rfl
  admits _ event := by cases event <;> exact Iff.rfl

theorem replays_told : Replays (Event.told? : Event E → Option (Event Empty)) where
  posts _ event := by cases event <;> rfl
  admits _ event := by cases event <;> exact Iff.rfl

/-! ### Ledgers and grants -/

namespace Tells

theorem of_mem (tells : ledger.Tells grants) (member : grant ∈ grants) :
    ledger[grant.payload]? = some (unitsFor grant.size) :=
  (tells _ _).mpr ⟨grant, member, rfl, rfl⟩

theorem of_not_live (tells : ledger.Tells grants) {payload : Address}
    (new : ∀ grant ∈ grants, grant.payload ≠ payload) : ledger[payload]? = none := by
  refine Option.eq_none_iff_forall_ne_some.mpr fun units here => ?_
  obtain ⟨grant, member, same, -⟩ := (tells payload units).mp here
  exact new grant member same

theorem congr (tells : ledger.Tells grants) {other : Ledger}
    (same : ∀ payload : Address, other[payload]? = ledger[payload]?) : other.Tells grants :=
  fun payload units => (same payload).symm ▸ tells payload units

/-- A block that is struck out is granted no more. -/
theorem erase (tells : ledger.Tells grants) (payload : Address) :
    Tells (ledger.erase payload) (Request.without (some payload) grants) := by
  intro other units
  rw [getElem?_erase]
  by_cases here : payload = other
  · subst here
    rw [if_pos rfl]
    refine iff_of_false nofun ?_
    rintro ⟨grant, member, same, -⟩
    exact (Request.mem_without.mp member).2 same
  · rw [if_neg here, tells other units]
    refine exists_congr fun grant => ?_
    rw [Request.mem_without, and_assoc]
    refine and_congr_right fun _ => (and_iff_right_of_imp ?_).symm
    rintro ⟨same, -⟩ equal
    exact here (equal.symm.trans same)

/-- A block that is added is granted in the place of any other one with its payload. -/
theorem insert (tells : ledger.Tells grants) (grant : Grant) :
    Tells (ledger.insert grant.payload (unitsFor grant.size))
      (grant :: Request.without (some grant.payload) grants) := by
  intro other units
  have erased := tells.erase grant.payload other units
  rw [getElem?_erase] at erased
  rw [getElem?_insert, List.exists_mem_cons_iff, ← erased]
  by_cases here : grant.payload = other
  · rw [if_pos here, if_pos here, Option.some_inj, and_iff_right here]
    exact (or_iff_left nofun).symm
  · rw [if_neg here, if_neg here]
    exact (or_iff_right fun same => here same.1).symm

/-- A live block may be granted anew if it keeps its units. -/
theorem resettle (tells : ledger.Tells grants) (member : grant ∈ grants) {size : Word}
    (alignment : Word) (same : unitsFor grant.size = unitsFor size) :
    ledger.Tells ({ payload := grant.payload, size, alignment } ::
      Request.without (some grant.payload) grants) := by
  -- The ledger has the block with these units, and adding it once more changes nothing.
  refine (tells.insert { payload := grant.payload, size, alignment }).congr fun payload => ?_
  rw [getElem?_insert]
  split
  · next here => rw [← here, tells.of_mem member, same]
  · rfl

end Tells

end Ledger

/-! ### Grants but for one -/

theorem Request.without_of_not_live {grants : List Grant} {payload : Address}
    (new : ∀ grant ∈ grants, grant.payload ≠ payload) : without (some payload) grants = grants :=
  List.filter_eq_self.mpr fun grant member =>
    decide_eq_true fun same => new grant member (Option.some_inj.mp same).symm

theorem Request.without_cons {grants : List Grant} {grant : Grant} {payload : Address}
    (other : grant.payload ≠ payload) :
    without (some payload) (grant :: grants) = grant :: without (some payload) grants :=
  List.filter_cons_of_pos (decide_eq_true fun same => other (Option.some_inj.mp same).symm)

/-! ### Audits -/

/-- A log can be replayed without a contradiction, and what is left are some grants. -/
structure Audited {E : Type} (log : List (Event E)) (grants : List Grant) : Prop where
  accepted : Ledger.Accepts ∅ log
  tells : (audit log).Tells grants

namespace Audited

variable {E : Type} {log longer : List (Event E)} {grants grantsAfter : List Grant} {grant : Grant}

theorem start : Audited ([] : List (Event E)) [] where
  accepted := trivial
  tells payload units := by
    have nothing : (audit ([] : List (Event E)))[payload]? = none := Std.TreeMap.getElem?_emptyc
    rw [nothing]
    exact iff_of_false nofun nofun

/-- It is enough to replay what is told of the events. -/
theorem audited_filterMap {D : Type} {tell : Event E → Option (Event D)}
    (replays : Ledger.Replays tell) : Audited (log.filterMap tell) grants ↔ Audited log grants := by
  obtain ⟨posted, accepted⟩ := replays.foldl_post ∅ log
  have same : audit (log.filterMap tell) = audit log := posted
  exact ⟨fun audited => ⟨accepted.mp audited.accepted, same ▸ audited.tells⟩,
    fun audited => ⟨accepted.mpr audited.accepted, same ▸ audited.tells⟩⟩

theorem audited_auditTrail : Audited (auditTrail log) grants ↔ Audited log grants := by
  rw [auditTrail, ← List.filterMap_eq_filter]
  exact audited_filterMap Ledger.replays_isEntry

theorem of_auditTrail_eq (audited : Audited log grants)
    (same : auditTrail longer = auditTrail log) : Audited longer grants := by
  rw [← audited_auditTrail, same, audited_auditTrail]
  exact audited

/-- What is entered next may depend on what was read before it. -/
theorem enter (audited : Audited log grants) {event : Event E}
    (entered : auditTrail longer = auditTrail log ++ [event])
    (posts : ∀ ledger : Ledger, ledger.Tells grants →
      ledger.Admits event ∧ (ledger.post event).Tells grantsAfter) :
    Audited longer grantsAfter := by
  obtain ⟨accepted, tells⟩ := audited_auditTrail.mpr audited
  obtain ⟨admits, tellsAfter⟩ := posts _ tells
  rw [← audited_auditTrail, entered]
  constructor
  · exact (Ledger.accepts_append _ _ _).mpr ⟨accepted, admits, trivial⟩
  · rw [audit, List.foldl_append]
    exact tellsAfter

/-- A new block is entered at a payload that is not live. -/
theorem granted (audited : Audited log grants)
    (new : ∀ other ∈ grants, other.payload ≠ grant.payload) {alignment : Option Word}
    (entered : auditTrail longer =
      auditTrail log ++ [.allocated grant.size (unitsFor grant.size) grant.payload alignment]) :
    Audited longer (grant :: grants) := by
  refine audited.enter entered fun ledger tells => ⟨tells.of_not_live new, ?_⟩
  have inserted := tells.insert grant
  rwa [Request.without_of_not_live new] at inserted

/-- A live block is entered as freed with its units. -/
theorem freed (audited : Audited log grants) (member : grant ∈ grants)
    (entered : auditTrail longer =
      auditTrail log ++ [.freeing grant.payload (unitsFor grant.size)]) :
    Audited longer (Request.without (some grant.payload) grants) :=
  audited.enter entered fun _ tells => ⟨tells.of_mem member, tells.erase grant.payload⟩

/-- A live block that is granted for a new size is entered if it has fewer units then. -/
theorem cutDown (audited : Audited log grants) (member : grant ∈ grants) {size alignment : Word}
    (enough : unitsFor size ≤ unitsFor grant.size)
    (entered : auditTrail longer = auditTrail log ++
      if unitsFor grant.size - unitsFor size ≠ 0 then [.shrank grant.header (unitsFor size)]
      else []) :
    Audited longer ({ payload := grant.payload, size, alignment } ::
      Request.without (some grant.payload) grants) := by
  split at entered
  · next fewer =>
    have place : payloadAbove grant.header = grant.payload := payloadAbove_headerBelow _
    refine audited.enter entered fun ledger tells =>
      ⟨⟨unitsFor grant.size, place.symm ▸ tells.of_mem member, ?_⟩, ?_⟩
    · exact UInt64.lt_of_le_of_ne enough fun same => fewer (by rw [same, UInt64.sub_self])
    · rw [Ledger.post, place]
      exact tells.insert { payload := grant.payload, size, alignment }
  · next all =>
    have same : unitsFor grant.size = unitsFor size :=
      (UInt64.sub_eq_iff_eq_add.mp (not_not.mp all)).trans (UInt64.zero_add _)
    rw [List.append_nil] at entered
    have settled : Audited log _ := ⟨audited.accepted, audited.tells.resettle member alignment same⟩
    exact settled.of_auditTrail_eq entered

end Audited

/-! ### Calls -/

variable {G E : Type} [Grower G E] {fresh : G} {session after : Session G E} {list : FreeList}
  {grants : List Grant} {grant : Grant} {request : Request} {size alignment : Word}

/-- A block that is apart from all live ones has a payload that is not live. -/
theorem HandsOut.not_live (hands : HandsOut fresh session after (lentTo grants) grant) :
    ∀ other ∈ grants, other.payload ≠ grant.payload := fun _ member =>
  Grant.payload_ne (hands.apart.mono_right (stretch_subset_lentTo member)).symm

omit [Grower G E] in
theorem Audited.release (audited : Audited session.log grants) (member : grant ∈ grants)
    (live : grant.Live session.heap.memory) (free : session.heap.free = some list)
    (released : Heap.release (some grant.payload) session = .ok () after) :
    Audited after.log (Request.without (some grant.payload) grants) := by
  have entered := Heap.release_auditTrail free live.tagged released
  rw [live.size_eq] at entered
  exact audited.freed member entered

/-- A live block can be freed, and that is audited. -/
theorem Sustained.release_audited (sustained : Sustained fresh grants session)
    (audited : Audited session.log grants) (member : grant ∈ grants) :
    ∃ after, Heap.release (some grant.payload) session = .ok () after ∧
      Audited after.log (Request.without (some grant.payload) grants) := by
  have live := sustained.live grant member
  obtain ⟨list, blocks, balanced⟩ := sustained.exists_balanced_of_mem member
  obtain ⟨after, released, -⟩ := balanced.release live (stretch_subset_lentTo member)
  exact ⟨after, released, audited.release member live balanced.free released⟩

/-- A call that hands out a new block, or none, is audited. -/
theorem Audited.call_new {faulty : Fault → Session G E → Prop}
    (audited : Audited session.log grants) (request : Request) (given : request.given = none)
    (enters : Enters (request.run : Action G E (Option Address))
      (handedOut request.size request.alignment))
    (ends : Ends (request.run session) (request.Outcome fresh grants session) faulty) :
    Ends (request.run session)
      (fun answer after => Audited after.log (request.settle grants answer))
      (fun _ after => Audited after.log grants) := by
  have same : Request.without request.given grants = grants := given ▸ Request.without_none
  have entered := enters session
  cases ran : request.run session with
  | error fault after =>
    rw [ran] at entered
    exact audited.of_auditTrail_eq entered
  | ok answer after =>
    rw [ran] at entered ends
    cases answer with
    | none =>
      show Audited after.log (request.settle grants none)
      rw [Request.settle_none_of_given given]
      exact audited.of_auditTrail_eq (entered.trans (List.append_nil _))
    | some payload =>
      have hands : HandsOut fresh session after (lentTo (Request.without request.given grants))
        { payload, size := request.size, alignment := request.alignment } := ends
      rw [same] at hands
      show Audited after.log (_ :: Request.without request.given grants)
      rw [same]
      exact audited.granted hands.not_live entered

/-- A request for a new block is audited. -/
theorem Sustained.allocateAligned_audited (sustained : Sustained fresh grants session)
    (sound : Grower.Sound fresh) (audited : Audited session.log grants)
    (power : isPowerOfTwo alignment = true) :
    Ends (Heap.allocateAligned size alignment session)
      (fun answer after =>
        Audited after.log ((Request.allocateAligned size alignment).settle grants answer))
      (fun _ after => Audited after.log grants) := by
  have ends := Sustained.call_new (.allocateAligned size alignment) rfl
    (sustained.kept.allocateAligned_ends sound power)
  exact audited.call_new (.allocateAligned size alignment) rfl
    (Heap.allocateAligned_enters size alignment) ends

/-- A block of which there is a copy in a new block is freed, and that is audited. -/
theorem HandsOut.release_audited {before : Session G E} {moved : Grant}
    (hands : HandsOut fresh before session (lentTo grants) moved)
    (live : grant.Live session.heap.memory) (member : grant ∈ grants)
    (audited : Audited session.log (moved :: grants)) :
    ∃ after, Heap.release (some grant.payload) session = .ok () after ∧
      Audited after.log (moved :: Request.without (some grant.payload) grants) := by
  obtain ⟨list, blocks, balanced⟩ := hands.balanced
  have lent : grant.stretch ⊆ moved.stretch ∪ lentTo grants :=
    (stretch_subset_lentTo member).trans Finset.subset_union_right
  obtain ⟨after, released, -⟩ := balanced.release live lent
  refine ⟨after, released, ?_⟩
  rw [← Request.without_cons (hands.not_live grant member).symm]
  exact audited.release (List.mem_cons_of_mem _ member) live balanced.free released

section Resizes

variable (sustained : Sustained fresh grants session) (audited : Audited session.log grants)
  (member : grant ∈ grants) (nonzero : size ≠ 0) (power : isPowerOfTwo alignment = true)

include sustained audited member nonzero power

/-- A block that moves is entered at its new place before it is entered as freed. -/
theorem Sustained.move_audited (sound : Grower.Sound fresh) :
    Ends (Heap.move grant.payload (unitsFor grant.size) size alignment session)
      (fun answer after => Audited after.log
        ((Request.resizeAligned (some grant.payload) size alignment).settle grants answer))
      (fun _ after => Audited after.log grants) := by
  have live := sustained.live grant member
  have subset := stretch_subset_lentTo member
  have ends : Ends (Heap.allocateAligned size alignment session) _ _ :=
    sustained.kept.allocateAligned_ends sound power
  have allocates : Ends (Heap.allocateAligned size alignment session) _ _ :=
    sustained.allocateAligned_audited sound audited power
  cases allocated : Heap.allocateAligned size alignment session with
  | error fault after =>
    rw [allocated] at allocates
    rw [Heap.move_of_error allocated]
    exact allocates
  | ok answer after =>
    rw [allocated] at allocates ends
    cases answer with
    | none =>
      have same : (Request.resizeAligned (some grant.payload) size alignment).settle grants none =
          grants := if_neg nonzero
      have refused : Audited after.log (Request.settle _ grants none) := allocates
      rw [Request.settle_none_of_given rfl] at refused
      rw [Heap.move_of_none allocated]
      show Audited after.log (Request.settle _ grants none)
      rw [same]
      exact refused
    | some payload =>
      obtain ⟨copied, log, hands, stillLive, -, moved⟩ :=
        HandsOut.exists_copied ends live subset allocated
      have both : Audited after.log (_ :: Request.without none grants) := allocates
      rw [Request.without_none, ← log] at both
      obtain ⟨later, released, freed⟩ := hands.release_audited stillLive member both
      rw [moved, bind_of_ok released]
      exact freed

/-- A block that stays is entered if it is cut down. -/
theorem Sustained.shrink_audited (fits : size.toNat + 15 < 2 ^ 64)
    (enough : unitsFor size ≤ unitsFor grant.size)
    (aligned : alignment.toNat ∣ grant.payload.toNat) :
    Ends (Heap.resizeAligned (some grant.payload) size alignment session)
      (fun answer after => Audited after.log
        ((Request.resizeAligned (some grant.payload) size alignment).settle grants answer))
      (fun _ after => Audited after.log grants) := by
  have live := sustained.live grant member
  have subset := stretch_subset_lentTo member
  obtain ⟨list, blocks, balanced⟩ := sustained.exists_balanced_of_mem member
  obtain ⟨after, result, -⟩ := balanced.shrink live subset (unitsFor_ne_zero size) enough
  have entered := Heap.shrink_auditTrail balanced.free (live.surplus_eq enough) result
  rw [Heap.resizeAligned_shrinks nonzero fits power live enough aligned, bind_of_ok result]
  exact audited.cutDown member enough entered

end Resizes

/-- However a block is resized that is handed in, the call is audited. -/
theorem Sustained.resizeAligned_audited (sustained : Sustained fresh grants session)
    (sound : Grower.Sound fresh) (audited : Audited session.log grants)
    {given : Option Address}
    (handedIn : ∀ payload ∈ given, ∃ grant ∈ grants, grant.payload = payload)
    (power : isPowerOfTwo alignment = true) :
    Ends (Heap.resizeAligned given size alignment session)
      (fun answer after =>
        Audited after.log ((Request.resizeAligned given size alignment).settle grants answer))
      (fun _ after => Audited after.log grants) := by
  cases given with
  | none =>
    exact sustained.allocateAligned_audited sound audited power
  | some payload =>
    obtain ⟨grant, member, rfl⟩ := handedIn payload rfl
    have live := sustained.live grant member
    by_cases zero : size = 0
    · subst zero
      obtain ⟨after, released, freed⟩ := sustained.release_audited audited member
      rw [Heap.resizeAligned_zero, bind_of_ok released]
      exact freed
    have same : (Request.resizeAligned (some grant.payload) size alignment).settle grants none =
        grants := if_neg zero
    by_cases fits : size.toNat + 15 < 2 ^ 64
    · by_cases stays : unitsFor size ≤ unitsFor grant.size ∧ alignment.toNat ∣ grant.payload.toNat
      · exact sustained.shrink_audited audited member zero power fits stays.1 stays.2
      · rw [Heap.resizeAligned_moves zero fits power live stays]
        exact sustained.move_audited audited member zero power sound
    · rw [Heap.resizeAligned_tooLarge alignment fits session]
      show Audited session.log (Request.settle _ grants none)
      rw [same]
      exact audited

/-- Whatever a caller does who keeps to the rules, the log can be replayed, and what is left are the
grants. -/
theorem Sustained.run_audited (sustained : Sustained fresh grants session)
    (sound : Grower.Sound fresh) (audited : Audited session.log grants)
    (legal : request.Legal grants session) :
    Ends (request.run session)
      (fun answer after => Audited after.log (request.settle grants answer))
      (fun _ after => Audited after.log grants) := by
  have power := legal.power
  cases request with
  | allocate size =>
    exact audited.call_new (.allocate size) rfl (Heap.allocate_enters size)
      (sustained.call_ends sound legal rfl)
  | allocateZeroed size =>
    exact audited.call_new (.allocateZeroed size) rfl (Heap.allocateZeroed_enters size)
      (sustained.call_ends sound legal rfl)
  | allocateAligned size alignment => exact sustained.allocateAligned_audited sound audited power
  | resize given size => exact sustained.resizeAligned_audited sound audited legal.given power
  | resizeAligned given size alignment =>
    exact sustained.resizeAligned_audited sound audited legal.given power
  | release given =>
    show Ends ((Heap.release given >>= _) session) _ _
    cases given with
    | none =>
      show Audited session.log (Request.without none grants)
      rw [Request.without_none]
      exact audited
    | some payload =>
      obtain ⟨grant, member, rfl⟩ := legal.given payload rfl
      obtain ⟨after, released, freed⟩ := sustained.release_audited audited member
      rw [bind_of_ok released]
      exact freed
  | store address value =>
    show Audited session.log (Request.settle _ _ none)
    rw [Request.settle_none_of_given rfl]
    exact audited

/-- At any time the log can be replayed, and what is left are the live blocks. -/
theorem Reached.audited (reached : Reached fresh grants session) (sound : Grower.Sound fresh) :
    Audited session.log grants := by
  induction reached with
  | start => exact .start
  | @serve grants session reached request legal inductionHypothesis =>
    have ends := (reached.sustained sound).run_audited sound inductionHypothesis legal
    rw [Request.serve]
    cases ran : request.run session with
    | ok answer after =>
      rw [ran] at ends
      exact ends
    | error fault after =>
      rw [ran] at ends
      exact ends
  | elsewhere _ _ inductionHypothesis => exact inductionHypothesis

/-! ### The audit trail -/

section Known

variable (sustained : Sustained fresh grants session) {ledger : Ledger}
  (tells : ledger.Tells grants)

include sustained

theorem Sustained.liveBlocks_eq : liveBlocks session.heap.memory grants =
    grants.map fun grant => (grant.payload, unitsFor grant.size) :=
  List.map_congr_left fun grant member =>
    congrArg (Prod.mk grant.payload) (sustained.live grant member).size_eq

include tells

/-- A ledger that knows of the grants knows of the live blocks. -/
theorem Sustained.mem_liveBlocks {payload : Address} {units : Word} :
    ledger[payload]? = some units ↔
      (payload, units) ∈ liveBlocks session.heap.memory grants := by
  rw [tells payload units, sustained.liveBlocks_eq, List.mem_map]
  simp only [Prod.mk.injEq]

/-- It lists each of them once. -/
theorem Sustained.toList_perm :
    ledger.toList.Perm (liveBlocks session.heap.memory grants) := by
  have distinct : ledger.toList.Nodup := Std.TreeMap.distinct_keys_toList.imp fun different same =>
    different (Std.LawfulEqCmp.compare_eq_iff_eq.mpr (congrArg Prod.fst same))
  have apart : (liveBlocks session.heap.memory grants).Nodup := by
    rw [sustained.liveBlocks_eq]
    refine List.pairwise_map.mpr ((List.pairwise_map.mp sustained.apart).imp ?_)
    exact fun disjoint same => Grant.payload_ne disjoint (congrArg Prod.fst same)
  refine (List.perm_ext_iff_of_nodup distinct apart).mpr fun entry => ?_
  exact Std.TreeMap.mem_toList_iff_getElem?_eq_some.trans (sustained.mem_liveBlocks tells)

/-- So its total are the units of all live blocks. -/
theorem Sustained.total_eq : ledger.total = liveUnits session.heap.memory grants := by
  have perm := (sustained.toList_perm tells).map fun entry => entry.2.toNat
  rw [Ledger.total, perm.sum_eq, liveBlocks, List.map_map]
  rfl

end Known

theorem grown_told (log : List (Event E)) : grown (log.filterMap Event.told?) = grown log := by
  rw [grown, grown, List.filterMap_filterMap]
  exact congrArg _ (List.filterMap_congr fun event _ => by cases event <;> rfl)

/-- The log of a heap is a complete audit trail. At any time its records can be replayed without a
contradiction, and what is left are the live payloads with the units in their headers. Once there
is a free list, the units of the regions in the records are the sentinel's, those that are left by
the replay, and those that are free. -/
theorem Reached.log_is_audit_trail (reached : Reached fresh grants session)
    (sound : Grower.Sound fresh) (errorText : E → String) :
    Ledger.Accepts ∅ (told (session.log.map (Event.text errorText))) ∧
      (∀ payload units,
        (audit (told (session.log.map (Event.text errorText))))[payload]? = some units ↔
          (payload, units) ∈ liveBlocks session.heap.memory grants) ∧
      ∀ blocks, session.heap.freeBlocks = .ok (some blocks) →
        ∃ survey, session.heap.survey = .ok survey ∧
          ((grown (told (session.log.map (Event.text errorText)))).map fun region =>
            region.units.toNat).sum =
              1 + (audit (told (session.log.map (Event.text errorText)))).total +
                survey.totals.units.toNat := by
  have sustained := reached.sustained sound
  obtain ⟨accepted, tells⟩ :=
    (Audited.audited_filterMap Ledger.replays_told).mpr (reached.audited sound)
  rw [told_map_text, grown_told]
  refine ⟨accepted, fun _ _ => sustained.mem_liveBlocks tells, fun blocks listed => ?_⟩
  have started : session.heap.free ≠ none := by
    intro nothing
    rw [Heap.freeBlocks, nothing] at listed
    cases listed
  obtain ⟨list, blocks, balanced⟩ := sustained.exists_balanced started
  obtain ⟨survey, surveyed, units⟩ := balanced.survey_eq
  refine ⟨survey, surveyed, ?_⟩
  rw [← sound.card_owned balanced.grower, sustained.card_owned balanced, sustained.total_eq tells,
    units]

/-- A use of a small buffer, as its records tell of it: of two blocks, one of them aligned to 64
bytes, the first was cut down and then freed. -/
theorem exists_records_smallBuffer :
    ∃ (grants : List Grant) (session : Session FixedBuffer Exhausted),
      Reached smallBuffer grants session ∧ session.heap.free ≠ none ∧
        liveBlocks session.heap.memory grants = [(0x1080, 8)] ∧
        session.log.map (Event.text Exhausted.message) =
          ["Grew heap by 1 units at 0x1000 (1 requested)",
            "Grew heap by 4 units at 0x1010 (4 requested)",
            "Allocated 40 bytes (4 units) at 0x1020",
            "Grew heap by 11 units at 0x1050 (11 requested)",
            "Allocated 100 bytes (8 units) at 0x1080, aligned to 64",
            "Shrank 0x1010 to 2 units", "Freeing 0x1020: 2 units"] := by
  have first := (Reached.start {} : Reached smallBuffer [] _).serve (.allocate 40)
    ⟨nofun, rfl, nofun⟩
  have second := first.serve (.allocateAligned 100 64) ⟨nofun, rfl, nofun⟩
  have third := second.serve (.resize (some 0x1020) 8)
    ⟨by rintro _ ⟨⟩; decide +kernel, rfl, nofun⟩
  have fourth := third.serve (.release (some 0x1020))
    ⟨by rintro _ ⟨⟩; decide +kernel, rfl, nofun⟩
  exact ⟨_, _, fourth, by decide +kernel, by decide +kernel, by decide +kernel⟩

/-- From these records an audit knows of the second block and no more of the first. -/
theorem log_is_audit_trail_smallBuffer :
    ∃ (grants : List Grant) (session : Session FixedBuffer Exhausted) (records : List String),
      Reached smallBuffer grants session ∧
        records = session.log.map (Event.text Exhausted.message) ∧ records.length = 7 ∧
        Ledger.Accepts ∅ (told records) ∧
        (audit (told records))[(0x1080 : Address)]? = some 8 ∧
        (audit (told records))[(0x1020 : Address)]? = none ∧
        ∃ survey, session.heap.survey = .ok survey ∧
          ((grown (told records)).map fun region => region.units.toNat).sum =
            1 + (audit (told records)).total + survey.totals.units.toNat := by
  obtain ⟨grants, session, reached, started, live, records⟩ := exists_records_smallBuffer
  have sound := FixedBuffer.sound smallBuffer_fresh
  obtain ⟨accepted, left, counted⟩ := reached.log_is_audit_trail sound Exhausted.message
  obtain ⟨list, blocks, balanced⟩ := (reached.sustained sound).exists_balanced started
  rw [live] at left
  refine ⟨grants, session, _, reached, rfl, by rw [records]; rfl, accepted,
    (left _ _).mpr (List.mem_singleton.mpr rfl),
    Option.eq_none_iff_forall_ne_some.mpr fun units here => ?_,
    counted blocks balanced.freeBlocks_eq⟩
  have same := List.mem_singleton.mp ((left _ _).mp here)
  exact absurd (Prod.mk.inj same).1 (by decide)

/-- A log in which a block is freed twice contradicts itself. -/
example : ¬Ledger.Accepts ∅ [(.allocated 40 4 4128 none : Event Exhausted), .freeing 4128 4,
    .freeing 4128 4] := by decide +kernel

end NextFit
