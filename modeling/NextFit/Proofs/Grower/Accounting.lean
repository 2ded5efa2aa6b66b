/-
This file says what a heap of pages asks of its system and what it keeps account of. A growth
is one call to map memory, of the least length in whole pages that will do, and only a length
that does not fit in a word is refused without a call. The calls are seen by a recorder around
the system, which writes down each of them and alters nothing else. As long as the mappings
have no byte in common the address space bounds the counts, which therefore are exact: the
pages are those of the mappings that were made, and of the regions that were handed over.
-/

import NextFit.Proofs.Grower.PageHeap

namespace NextFit

/-! ### Calls -/

/-- A call to map memory. -/
structure MapCall where
  /-- The number of bytes that was asked for. -/
  length : Word
  /-- How the system answered. -/
  answer : MapAnswer

/-- The mapping that a call has made, unless it failed or begins at the null address. -/
def MapCall.mapping? (call : MapCall) : Option Mapping :=
  match call.answer with
  | .placed start => if start = 0 then none else some { start, length := call.length }
  | .failed _ => none

/-- A system with states in `S` whose calls are written down. -/
structure Recorded (S : Type) where
  /-- The system itself. -/
  system : S
  /-- The calls, the last one first. -/
  calls : List MapCall := []

namespace Recorded

variable {S : Type} [Mapper S]

/-- The mappings that were made. -/
def mappings (recorded : Recorded S) : List Mapping :=
  recorded.calls.filterMap MapCall.mapping?

instance : Mapper (Recorded S) where
  pageSize := Mapper.pageSize S
  map recorded length :=
    let (answer, system) := Mapper.map recorded.system length
    (answer, { system, calls := { length, answer } :: recorded.calls })

theorem pageSize_eq : Mapper.pageSize (Recorded S) = Mapper.pageSize S := rfl

theorem map_eq (recorded : Recorded S) (length : Word) :
    Mapper.map recorded length =
      ((Mapper.map recorded.system length).1,
        { system := (Mapper.map recorded.system length).2
          calls := { length, answer := (Mapper.map recorded.system length).1 } ::
            recorded.calls }) := rfl

variable {recorded after : Recorded S} {length : Word}

theorem map_of_answered {answer : MapAnswer} {system : S}
    (answered : Mapper.map recorded.system length = (answer, system)) :
    Mapper.map recorded length =
      (answer, { system, calls := { length, answer } :: recorded.calls }) := by
  rw [map_eq, answered]

theorem mappings_of_placed {start : Address}
    (answered : Mapper.map recorded length = (.placed start, after)) (notNull : start ≠ 0) :
    after.mappings = { start, length } :: recorded.mappings := by
  rw [map_eq, Prod.mk.injEq] at answered
  obtain ⟨placed, rfl⟩ := answered
  rw [placed]
  exact List.filterMap_cons_some (if_neg notNull)

theorem suffix_of_answered {answer : MapAnswer}
    (answered : Mapper.map recorded length = (answer, after)) :
    recorded.mappings <:+ after.mappings := by
  rw [map_eq, Prod.mk.injEq] at answered
  obtain ⟨-, rfl⟩ := answered
  exact (List.suffix_cons _ _).filterMap _

theorem mappings_of_null {answer : MapAnswer}
    (answered : Mapper.map recorded length = (answer, after))
    (null : ∀ start, answer = .placed start → start = 0) :
    after.mappings = recorded.mappings := by
  rw [map_eq, Prod.mk.injEq] at answered
  obtain ⟨rfl, rfl⟩ := answered
  refine List.filterMap_cons_none ?_
  cases answered : (Mapper.map recorded.system length).1 with
  | placed start => exact if_pos (null start answered)
  | failed errno => rfl

end Recorded

/-! ### Mappings in an address space -/

/-- The bytes of a mapping. -/
def Mapping.bytes (mapping : Mapping) : Finset Nat :=
  Finset.Ico mapping.start.toNat (mapping.start.toNat + mapping.length.toNat)

theorem Mapping.disjoint_bytes {lower upper : Mapping}
    (below : lower.start.toNat + lower.length.toNat ≤ upper.start.toNat) :
    Disjoint upper.bytes lower.bytes := by
  rw [Finset.disjoint_left]
  intro byte above here
  rw [bytes, Finset.mem_Ico] at above here
  omega

/-- The mappings lie in the address space and have no byte in common. -/
structure Apart (mappings : List Mapping) : Prop where
  within : ∀ mapping ∈ mappings, mapping.start.toNat + mapping.length.toNat ≤ 2 ^ 64
  disjoint : (mappings.map Mapping.bytes).Pairwise Disjoint

/-- The length of all mappings together. -/
def totalLength (mappings : List Mapping) : Nat :=
  (mappings.map fun mapping => mapping.length.toNat).sum

theorem totalLength_cons (mapping : Mapping) (mappings : List Mapping) :
    totalLength (mapping :: mappings) = mapping.length.toNat + totalLength mappings := by
  rw [totalLength, List.map_cons, List.sum_cons, totalLength]

theorem Apart.of_suffix {earlier mappings : List Mapping} (apart : Apart mappings)
    (suffix : earlier <:+ mappings) : Apart earlier :=
  ⟨fun mapping member => apart.within mapping (suffix.subset member),
    apart.disjoint.sublist (suffix.map Mapping.bytes).sublist⟩

/-- No address space has more bytes than `2 ^ 64`. -/
theorem Apart.totalLength_le {mappings : List Mapping} (apart : Apart mappings) :
    totalLength mappings ≤ 2 ^ 64 := by
  have inside : covered (mappings.map Mapping.bytes) ⊆ Finset.range (2 ^ 64) := by
    intro byte member
    obtain ⟨part, listed, here⟩ := mem_covered.mp member
    obtain ⟨mapping, mappingMember, rfl⟩ := List.mem_map.mp listed
    have within := apart.within mapping mappingMember
    rw [Mapping.bytes, Finset.mem_Ico] at here
    rw [Finset.mem_range]
    omega
  have each : Finset.card ∘ Mapping.bytes = fun mapping => mapping.length.toNat := by
    funext mapping
    rw [Function.comp_apply, Mapping.bytes, Nat.card_Ico, Nat.add_sub_cancel_left]
  have count := Finset.card_le_card inside
  rwa [card_covered apart.disjoint, List.map_map, each, Finset.card_range] at count

namespace PageHeap

variable {S : Type} [Mapper S]

/-! ### The ways a growth ends -/

section Ways

variable {heap : PageHeap S} {requested length : Word} {system : S}

theorem grow_of_none (beyond : mapLength (Mapper.pageSize S) heap.minPages requested = none) :
    grow requested heap = .ok (.error .overflow) heap := by
  rw [grow_eq, beyond]

theorem overflow_iff {after : PageHeap S} :
    grow requested heap = .ok (.error .overflow) after ↔
      mapLength (Mapper.pageSize S) heap.minPages requested = none ∧ after = heap := by
  refine ⟨fun refused => ?_, by rintro ⟨beyond, rfl⟩; exact grow_of_none beyond⟩
  rw [grow_eq] at refused
  split at refused
  · next beyond =>
    cases refused
    exact ⟨beyond, rfl⟩
  split at refused
  · cases refused
  split at refused
  · cases refused
  · split at refused <;> cases refused

theorem grow_of_failed {errno : Errno}
    (fits : mapLength (Mapper.pageSize S) heap.minPages requested = some length)
    (answered : Mapper.map heap.system length = (.failed errno, system)) :
    grow requested heap = .ok (.error (.refused errno)) { heap with system } := by
  rw [grow_eq, fits]
  dsimp only
  rw [answered]

theorem grow_of_null (fits : mapLength (Mapper.pageSize S) heap.minPages requested = some length)
    (answered : Mapper.map heap.system length = (.placed 0, system)) :
    grow requested heap = .ok (.error .nullMapping) { heap with system } := by
  rw [grow_eq, fits]
  dsimp only
  rw [answered]
  exact if_pos rfl

theorem grow_of_placed {start : Address}
    (fits : mapLength (Mapper.pageSize S) heap.minPages requested = some length)
    (answered : Mapper.map heap.system length = (.placed start, system)) (notNull : start ≠ 0) :
    grow requested heap =
      match count (length / (Mapper.pageSize S).bytes) { heap with system } with
      | .error fault after => .error fault after
      | .ok () after => .ok (.ok { start, units := length / unitBytes }) after := by
  rw [grow_eq, fits]
  dsimp only
  rw [answered]
  exact if_neg notNull

end Ways

/-! ### One growth -/

/-- The heap without the recorder. -/
def plain (heap : PageHeap (Recorded S)) : PageHeap S :=
  { heap with system := heap.system.system }

/-- How work on a heap ends without the recorder. -/
def plainly {α : Type} : EStateM.Result Fault (PageHeap (Recorded S)) α →
    EStateM.Result Fault (PageHeap S) α
  | .ok value after => .ok value after.plain
  | .error fault after => .error fault after.plain

/-- The heap once its system has gone on to a further state by a call. -/
def noting (heap : PageHeap (Recorded S)) (call : MapCall) (system : S) : PageHeap (Recorded S) :=
  { heap with system := { system, calls := call :: heap.system.calls } }

/-- The counts do not become too large when a mapping of the given length is counted. -/
structure HasRoom {T : Type} (pageBytes : Nat) (heap : PageHeap T) (length : Nat) : Prop where
  pages : heap.pages.toNat + length / pageBytes < 2 ^ 64
  growths : heap.growths.toNat + 1 < 2 ^ 64

theorem count_of_hasRoom {T : Type} {page length : Word} {heap : PageHeap T}
    (room : heap.HasRoom page.toNat length.toNat) :
    ∃ pages growths, count (length / page) heap = .ok () { heap with pages, growths } ∧
      pages.toNat = heap.pages.toNat + length.toNat / page.toNat ∧
      growths.toNat = heap.growths.toNat + 1 := by
  have few : heap.pages.toNat + (length / page).toNat < UInt64.size := by
    rw [UInt64.toNat_div]
    exact room.pages
  have fewer : heap.growths.toNat + (1 : Word).toNat < UInt64.size := room.growths
  refine ⟨heap.pages + length / page, heap.growths + 1, ?_, ?_, ?_⟩
  · rw [count_eq, plus_of_lt few, plus_of_lt fewer]
  · rw [toNat_of_plus (plus_of_lt few), UInt64.toNat_div]
  · exact toNat_of_plus (plus_of_lt fewer)

variable {heap after : PageHeap (Recorded S)} {regions : List Region} {requested : Word}

omit [Mapper S] in
theorem count_plain (pages : Word) (heap : PageHeap (Recorded S)) :
    count pages heap.plain = plainly (count pages heap) := by
  rw [count_eq, count_eq]
  dsimp only [plain]
  cases plus heap.pages pages with
  | error fault => rfl
  | ok total => cases plus heap.growths 1 <;> rfl

/-- The recorder alters nothing else. -/
theorem grow_plain (requested : Word) (heap : PageHeap (Recorded S)) :
    grow requested heap.plain = plainly (grow requested heap) := by
  cases fits : mapLength (Mapper.pageSize S) heap.minPages requested with
  | none =>
    have beyond : mapLength (Mapper.pageSize S) heap.plain.minPages requested = none := fits
    rw [grow_of_none fits, grow_of_none beyond]
    rfl
  | some length =>
    have plainFits : mapLength (Mapper.pageSize S) heap.plain.minPages requested = some length :=
      fits
    rcases answered : Mapper.map heap.system.system length with ⟨answer, system⟩
    have plainAnswered : Mapper.map heap.plain.system length = (answer, system) := answered
    have recorded := Recorded.map_of_answered answered
    cases answer with
    | failed errno =>
      rw [grow_of_failed fits recorded, grow_of_failed plainFits plainAnswered]
      rfl
    | placed start =>
      by_cases null : start = 0
      · subst null
        rw [grow_of_null fits recorded, grow_of_null plainFits plainAnswered]
        rfl
      · rw [grow_of_placed fits recorded null, grow_of_placed plainFits plainAnswered null,
          Recorded.pageSize_eq]
        have bare := count_plain (length / (Mapper.pageSize S).bytes)
          (heap.noting { length, answer := .placed start } system)
        cases counted : count (length / (Mapper.pageSize S).bytes)
            (heap.noting { length, answer := .placed start } system)
        all_goals
          rw [counted] at bare
          dsimp only [noting, plain] at bare counted ⊢
          rw [bare, counted]
          rfl

/-- A growth is one call for the given number of bytes, and the answer decides how it ends: without
a mapping nothing is counted, and a mapping is handed over and counted as a whole. -/
def Calls (pageBytes : Nat) (heap : PageHeap (Recorded S)) (requested : Word) (bytes : Nat) :
    Prop :=
  ∃ (call : MapCall) (system : S), call.length.toNat = bytes ∧
    Mapper.map heap.system.system call.length = (call.answer, system) ∧
    match call.answer with
    | .failed errno =>
      grow requested heap = .ok (.error (.refused errno)) (heap.noting call system)
    | .placed start =>
      if start = 0 then grow requested heap = .ok (.error .nullMapping) (heap.noting call system)
      else heap.HasRoom pageBytes bytes → ∃ units pages growths,
        grow requested heap =
          .ok (.ok { start, units }) { heap.noting call system with pages, growths } ∧
        units.toNat = bytes / 16 ∧ requested ≤ units ∧
        pages.toNat = heap.pages.toNat + bytes / pageBytes ∧
        growths.toNat = heap.growths.toNat + 1

theorem calls_of_mapLength {length : Word}
    (fits : mapLength (Mapper.pageSize S) heap.minPages requested = some length) :
    heap.Calls (Mapper.pageSize S).bytes.toNat requested length.toNat := by
  rcases answered : Mapper.map heap.system.system length with ⟨answer, system⟩
  have recorded := Recorded.map_of_answered answered
  refine ⟨{ length, answer }, system, rfl, answered, ?_⟩
  cases answer with
  | failed errno => exact grow_of_failed fits recorded
  | placed start =>
    dsimp only
    split
    · next null =>
      subst null
      exact grow_of_null fits recorded
    · next notNull =>
      intro room
      have noted : (heap.noting { length, answer := .placed start } system).HasRoom
          (Mapper.pageSize S).bytes.toNat length.toNat :=
        ⟨room.pages, room.growths⟩
      obtain ⟨pages, growths, counted, total, count⟩ := count_of_hasRoom noted
      have units : (length / unitBytes).toNat = length.toNat / 16 := UInt64.toNat_div _ _
      obtain ⟨-, enough, -⟩ := mapLength_spec fits
      refine ⟨length / unitBytes, pages, growths, ?_, units,
        UInt64.le_iff_toNat_le.mpr (by omega), total, count⟩
      rw [noting] at counted
      rw [grow_of_placed fits recorded notNull, Recorded.pageSize_eq, counted]
      rfl

/-! ### A run of growths -/

/-- A heap that has not asked for anything yet. -/
structure Unused (heap : PageHeap (Recorded S)) : Prop where
  minPages : heap.minPages ≠ 0
  pages : heap.pages = 0
  growths : heap.growths = 0
  calls : heap.system.calls = []

/-- The counts of a heap are those of the mappings that were made for it, and of the regions that
it has handed over. -/
structure Settled (regions : List Region) (heap : PageHeap (Recorded S)) : Prop where
  mapped : (Mapper.pageSize S).bytes.toNat * heap.pages.toNat = totalLength heap.system.mappings
  handedOver : (Mapper.pageSize S).bytes.toNat * heap.pages.toNat =
    16 * (regions.map fun region => region.units.toNat).sum
  growths : heap.growths.toNat = heap.system.mappings.length
  nonempty : heap.growths.toNat ≤ heap.pages.toNat

/-- As long as the mappings are apart one more can be counted. -/
theorem Settled.hasRoom (settled : Settled regions heap) (apart : Apart heap.system.mappings)
    {length : Nat} (fits : length < 2 ^ 64) :
    heap.HasRoom (Mapper.pageSize S).bytes.toNat length := by
  have mapped := settled.mapped
  have nonempty := settled.nonempty
  have most := apart.totalLength_le
  have few := (Mapper.pageSize S).div_le length
  have atLeast := Nat.mul_le_mul_right heap.pages.toNat (Mapper.pageSize S).sixteen_le
  exact ⟨by omega, by omega⟩

/-- A growth that is refused has made no mapping. -/
theorem mappings_of_refused {error : MapError}
    (refused : grow requested heap = .ok (.error error) after) :
    after.system.mappings = heap.system.mappings := by
  obtain ⟨same | ⟨length, answer, answered, null⟩, -⟩ := grow_error refused
  · rw [same]
  · exact Recorded.mappings_of_null answered null

theorem Settled.granted {region : Region} (settled : Settled regions heap)
    (minPages : heap.minPages ≠ 0) (granted : grow requested heap = .ok (.ok region) after) :
    Settled (region :: regions) after := by
  obtain ⟨length, fits, placed, notNull, units, pages, growths, -⟩ := grow_ok granted
  rw [Recorded.pageSize_eq] at fits pages
  have mappings := Recorded.mappings_of_placed placed notNull
  obtain ⟨whole, -, least⟩ := mapLength_spec fits
  obtain ⟨number, wholeUnits⟩ := sixteen_dvd_mapLength fits
  have unitSize : unitBytes.toNat = 16 := rfl
  have one : (1 : Word).toNat = 1 := rfl
  have some := toNat_pos_of_ne_zero minPages
  have onePage : heap.minPages.toNat ≤ length.toNat / (Mapper.pageSize S).bytes.toNat :=
    (Nat.le_div_iff_mul_le (Mapper.pageSize S).positive).mpr (Nat.mul_comm _ _ ▸ least)
  have pagesAfter := toNat_of_plus pages
  have growthsAfter := toNat_of_plus growths
  have unitsAfter : region.units.toNat = length.toNat / 16 := by
    rw [units, UInt64.toNat_div, unitSize]
  rw [UInt64.toNat_div] at pagesAfter
  rw [one] at growthsAfter
  have inBytes : (Mapper.pageSize S).bytes.toNat * after.pages.toNat =
      (Mapper.pageSize S).bytes.toNat * heap.pages.toNat + length.toNat := by
    rw [pagesAfter, PageSize.mul_add_div _ _ whole]
  obtain ⟨mapped, handedOver, count, nonempty⟩ := settled
  refine ⟨?_, ?_, ?_, by omega⟩
  · rw [mappings, totalLength_cons]
    show _ = length.toNat + _
    omega
  · rw [List.map_cons, List.sum_cons]
    omega
  · rw [mappings, List.length_cons, growthsAfter, count]

theorem Settled.refused {error : MapError} (settled : Settled regions heap)
    (refused : grow requested heap = .ok (.error error) after) : Settled regions after := by
  obtain ⟨-, -, pages, growths⟩ := grow_error refused
  have mappings := mappings_of_refused refused
  constructor
  · rw [pages, mappings]
    exact settled.mapped
  · rw [pages]
    exact settled.handedOver
  · rw [growths, mappings]
    exact settled.growths
  · rw [growths, pages]
    exact settled.nonempty

/-- With mappings that are apart no growth stops at a fault. -/
theorem Settled.grow_ne_error (settled : Settled regions heap)
    (apart : Apart heap.system.mappings) {fault : Fault} :
    grow requested heap ≠ .error fault after := by
  intro faulted
  obtain ⟨-, -, length, beyond⟩ := grow_fault faulted
  have room := settled.hasRoom apart length.toNat_lt
  have pages := room.pages
  have growths := room.growths
  rw [Recorded.pageSize_eq, UInt64.toNat_div] at beyond
  omega

/-- The counts are right after every run. -/
theorem settled (unused : heap.Unused) (reached : Grower.Reaches heap regions after)
    (apart : Apart after.system.mappings) :
    after.minPages = heap.minPages ∧ Settled regions after := by
  induction reached with
  | fresh =>
    have none : heap.system.mappings = [] := by rw [Recorded.mappings, unused.calls]; rfl
    refine ⟨rfl, ?_, ?_, ?_, ?_⟩ <;> simp only [unused.pages, unused.growths, none] <;> rfl
  | granted _ granted inductionHypothesis =>
    obtain ⟨length, -, placed, -, -, -, -, minPages⟩ := grow_ok granted
    obtain ⟨same, settled⟩ :=
      inductionHypothesis (apart.of_suffix (Recorded.suffix_of_answered placed))
    exact ⟨minPages.trans same, settled.granted (same ▸ unused.minPages) granted⟩
  | refused _ refused inductionHypothesis =>
    obtain ⟨-, minPages, -, -⟩ := grow_error refused
    obtain ⟨same, settled⟩ := inductionHypothesis (mappings_of_refused refused ▸ apart)
    exact ⟨minPages.trans same, settled.refused refused⟩
  | faulted _ faulted inductionHypothesis =>
    obtain ⟨⟨length, answer, answered⟩, -, -⟩ := grow_fault faulted
    have apartBefore := apart.of_suffix (Recorded.suffix_of_answered answered)
    exact absurd faulted ((inductionHypothesis apartBefore).2.grow_ne_error apartBefore)

/-- A growth asks its system once, for the least length that will do, unless no word holds that
length. The counts of a heap that began with none are exact as long as the mappings are apart, and
then they never become too large. A heap whose system has no recorder does the same. The pages are
taken to have 4096 bytes. -/
theorem growth_accounted (paged : (Mapper.pageSize S).bytes = 4096) :
    (∀ requested, ∃ least, IsLeast (lengths 4096 heap.minPages requested) least ∧
      (∀ after, grow requested heap = .ok (.error .overflow) after ↔
        2 ^ 64 ≤ least ∧ after = heap) ∧
      (least < 2 ^ 64 → heap.Calls 4096 requested least)) ∧
    (heap.Unused → ∀ {regions after}, Grower.Reaches heap regions after →
      Apart after.system.mappings →
        4096 * after.pages.toNat = totalLength after.system.mappings ∧
        4096 * after.pages.toNat = 16 * (regions.map fun region => region.units.toNat).sum ∧
        after.growths.toNat = after.system.mappings.length ∧
        (∀ bytes < 2 ^ 64, after.HasRoom 4096 bytes) ∧
        ∀ requested fault later, grow requested after ≠ .error fault later) ∧
    ∀ requested, grow requested heap.plain = plainly (grow requested heap) := by
  have pageSize : (Mapper.pageSize S).bytes.toNat = 4096 := by rw [paged]; rfl
  refine ⟨fun requested => ?_, ?_, fun requested => grow_plain requested heap⟩
  · rw [← pageSize]
    obtain ⟨least, isLeast, ⟨beyond, none⟩ | ⟨length, rfl, fits⟩⟩ :=
      exists_isLeast_lengths (Mapper.pageSize S) heap.minPages requested
    · refine ⟨least, isLeast, fun after => ?_, fun fits => absurd fits (Nat.not_lt.mpr beyond)⟩
      rw [overflow_iff]
      exact and_congr_left' ⟨fun _ => beyond, fun _ => none⟩
    · refine ⟨length.toNat, isLeast, fun after => ?_, fun _ => calls_of_mapLength fits⟩
      rw [overflow_iff, Recorded.pageSize_eq, fits]
      exact and_congr_left' ⟨nofun, fun beyond => absurd length.toNat_lt (Nat.not_lt.mpr beyond)⟩
  · intro unused regions after reached apart
    obtain ⟨-, settled⟩ := settled unused reached apart
    rw [← pageSize]
    exact ⟨settled.mapped, settled.handedOver, settled.growths, fun _ => settled.hasRoom apart,
      fun _ _ _ => settled.grow_ne_error apart⟩

/-- A heap that grows by two pages or more, over a system that leaves a page between mappings. -/
def spacedPages : PageHeap (Recorded PlannedMapper) where
  minPages := 2
  system := { system := .create { base := 65536, pages := 8 } [] (.upward 1) }

/-- These pages after a request for one unit and one for six hundred: five of them in two
mappings, and one page left above. -/
def usedPages : PageHeap (Recorded PlannedMapper) where
  minPages := 2
  pages := 5
  growths := 2
  system :=
    { system :=
        { PlannedMapper.create { base := 65536, pages := 8 } [] (.upward 1) with
          position := 7, calls := [8192, 12288] }
      calls :=
        [{ length := 12288, answer := .placed 77824 },
          { length := 8192, answer := .placed 65536 }] }

/-- Requests for one unit and for six hundred are counted as the five pages of two mappings. After
them a length that no word holds is refused without a call, and two pages, which the arena does not
have any more, are refused by the system. -/
theorem growth_accounted_spacedPages :
    (Mapper.pageSize PlannedMapper).bytes = 4096 ∧ spacedPages.Unused ∧
    (∃ regions, Grower.Reaches spacedPages regions usedPages) ∧
    Apart usedPages.system.mappings ∧
    4096 * usedPages.pages.toNat = 16 * (768 + (512 + 0)) ∧ usedPages.growths.toNat = 2 ∧
    grow 0x1000000000000000 usedPages = .ok (.error .overflow) usedPages ∧
    ∃ later, grow 1 usedPages = .ok (.error (.refused .noMemory)) later ∧
      later.pages = 5 ∧ later.growths = 2 ∧ later.system.calls.length = 3 := by
  have paged : (Mapper.pageSize PlannedMapper).bytes = 4096 := rfl
  have unused : spacedPages.Unused := ⟨by decide, rfl, rfl, rfl⟩
  have first := Grower.Reaches.fresh.granted
    (show Grower.grow 1 spacedPages = .ok (.ok _) _ from rfl)
  have second : Grower.Reaches spacedPages _ usedPages :=
    first.granted (show Grower.grow 600 _ = .ok (.ok _) _ from rfl)
  have apart : Apart usedPages.system.mappings :=
    ⟨by decide, List.pairwise_pair.mpr (Mapping.disjoint_bytes (by decide))⟩
  obtain ⟨-, pages, growths, -⟩ := (growth_accounted paged).2.1 unused second apart
  obtain ⟨answered, -⟩ : _ ∧ (usedPages.Unused → _) ∧ _ := growth_accounted paged
  refine ⟨paged, unused, ⟨_, second⟩, apart, pages, growths, ?_, ?_⟩
  · obtain ⟨least, isLeast, overflow, -⟩ := answered 0x1000000000000000
    have beyond : 2 ^ 64 ≤ least := (max_le_iff.mp isLeast.1.2).1
    exact (overflow usedPages).mpr ⟨beyond, rfl⟩
  · obtain ⟨least, isLeast, -, calls⟩ := answered 1
    have twoPages : IsLeast (lengths 4096 usedPages.minPages 1) 8192 :=
      ⟨⟨by decide, by decide⟩, fun _ allowed => (max_le_iff.mp allowed.2).2⟩
    obtain rfl := isLeast.unique twoPages
    obtain ⟨⟨length, answer⟩, system, same, mapped, ends⟩ := calls (by decide)
    obtain rfl : length = 8192 := UInt64.toNat_inj.mp same
    have full : Mapper.map usedPages.system.system 8192 = (.failed .noMemory, _) := rfl
    obtain ⟨rfl, rfl⟩ := Prod.mk.inj (full.symm.trans mapped)
    exact ⟨_, ends, rfl, rfl, rfl⟩

end PageHeap

end NextFit
