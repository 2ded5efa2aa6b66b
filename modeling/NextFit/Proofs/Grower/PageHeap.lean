/-
This file proves that a heap of mapped pages is a sound grower, as far as the system is:
no mapping that it makes may run past the last address or into an earlier one. The heap
hands over whole mappings, so that the pages it counts are the units of its regions.
-/

import NextFit.Grower.PageHeap
import NextFit.Proofs.Grower.Sound
import NextFit.Proofs.Steps
import NextFit.Proofs.Units

namespace NextFit

/-! ### Systems -/

/-- A mapping that a system has made. -/
structure Mapping where
  /-- Where the mapping begins. -/
  start : Address
  /-- Its length in bytes. -/
  length : Word

namespace Mapper

variable {S : Type} [Mapper S] {fresh system after : S} {mappings : List Mapping}

/-- The states that a system passes through as it maps memory, with the mappings that it has made
until then, the last one first. -/
inductive Reaches (fresh : S) : List Mapping → S → Prop
  | fresh : Reaches fresh [] fresh
  | placed {mappings : List Mapping} {system after : S} {length : Word} {start : Address} :
      Reaches fresh mappings system → map system length = (.placed start, after) →
      Reaches fresh ({ start, length } :: mappings) after
  | failed {mappings : List Mapping} {system after : S} {length : Word} {errno : Errno} :
      Reaches fresh mappings system → map system length = (.failed errno, after) →
      Reaches fresh mappings after

/-- A place for a mapping beside some earlier ones. -/
structure Suits (mappings : List Mapping) (start : Address) (length : Word) : Prop where
  aligned : 16 ∣ start.toNat
  within : start.toNat + length.toNat ≤ 2 ^ 64
  apart : ∀ earlier ∈ mappings, start.toNat + length.toNat ≤ earlier.start.toNat ∨
    earlier.start.toNat + earlier.length.toNat ≤ start.toNat

/-- Whatever the system has mapped before, it makes a mapping in a place that suits it, unless the
mapping begins at the null address. -/
structure Sound (fresh : S) : Prop where
  suits {mappings : List Mapping} {system after : S} {length : Word} {start : Address} :
    Reaches fresh mappings system → map system length = (.placed start, after) → start ≠ 0 →
    Suits mappings start length

theorem Reaches.map {length : Word} {answer : MapAnswer} (reached : Reaches fresh mappings system)
    (answered : Mapper.map system length = (answer, after)) :
    ∃ more, Reaches fresh (more ++ mappings) after := by
  cases answer with
  | placed start => exact ⟨[_], reached.placed answered⟩
  | failed errno => exact ⟨[], reached.failed answered⟩

end Mapper

/-! ### Lengths -/

theorem PageSize.positive (page : PageSize) : 0 < page.bytes.toNat :=
  toNat_pos_of_ne_zero page.nonzero

theorem PageSize.sixteen_le (page : PageSize) : 16 ≤ page.bytes.toNat :=
  Nat.le_of_dvd page.positive page.whole

/-- There are no more pages than units. -/
theorem PageSize.div_le (page : PageSize) (bytes : Nat) :
    bytes / page.bytes.toNat ≤ bytes / 16 :=
  Nat.div_le_div_left page.sixteen_le (by decide)

/-- Counted in bytes, one more mapping of whole pages is counted by its length. -/
theorem PageSize.mul_add_div (page : PageSize) (pages : Nat) {bytes : Nat}
    (whole : page.bytes.toNat ∣ bytes) :
    page.bytes.toNat * (pages + bytes / page.bytes.toNat) = page.bytes.toNat * pages + bytes := by
  rw [Nat.mul_add, Nat.mul_div_cancel' whole]

namespace PageHeap

/-- The lengths in bytes that a mapping may have: whole pages, at least as many as a growth must
have, with room for the units. A word need not hold them. -/
def lengths (pageBytes : Nat) (minPages units : Word) : Set Nat :=
  {length | pageBytes ∣ length ∧ max (16 * units.toNat) (pageBytes * minPages.toNat) ≤ length}

/-- Whichever product on the way is the first one that is too large, the last one is too. -/
theorem mapLength_gives (page : PageSize) (minPages units : Word) :
    Gives (mapLength page minPages units)
      (page.bytes.toNat *
        (max (16 * units.toNat) (page.bytes.toNat * minPages.toNat) ⌈/⌉ page.bytes.toNat))
      (page.bytes.toNat *
        (max (16 * units.toNat) (page.bytes.toNat * minPages.toNat) ⌈/⌉ page.bytes.toNat) <
          2 ^ 64) := by
  have unitsBytes : units.toNat * unitBytes.toNat = 16 * units.toNat := Nat.mul_comm _ _
  have pagesBytes : minPages.toNat * page.bytes.toNat = page.bytes.toNat * minPages.toNat :=
    Nat.mul_comm _ _
  obtain ⟨unitsFit, pagesFit⟩ := max_le_iff.mp
    (isLeast_mul_ceilDiv (max (16 * units.toNat) (page.bytes.toNat * minPages.toNat))
      page.positive).1.2
  refine (times?_gives units unitBytes).bind (Nat.lt_of_le_of_lt (unitsBytes ▸ unitsFit))
    fun _ bytes asked => ?_
  refine (times?_gives minPages page.bytes).bind (Nat.lt_of_le_of_lt (pagesBytes ▸ pagesFit))
    fun _ least pages => ?_
  have larger : (max bytes least).toNat =
      max (16 * units.toNat) (page.bytes.toNat * minPages.toNat) := by
    rw [UInt64.toNat_max, asked, pages, unitsBytes, pagesBytes]
  rw [← larger]
  exact roundUp?_gives (max bytes least) page.nonzero

/-- A mapping has the least of these lengths. Only if that does not fit in a word is there none. -/
theorem exists_isLeast_lengths (page : PageSize) (minPages units : Word) :
    ∃ least, IsLeast (lengths page.bytes.toNat minPages units) least ∧
      (2 ^ 64 ≤ least ∧ mapLength page minPages units = none ∨
        ∃ length : Word, length.toNat = least ∧ mapLength page minPages units = some length) := by
  have gives := mapLength_gives page minPages units
  refine ⟨_, isLeast_mul_ceilDiv _ page.positive, ?_⟩
  by_cases fits : page.bytes.toNat *
      (max (16 * units.toNat) (page.bytes.toNat * minPages.toNat) ⌈/⌉ page.bytes.toNat) < 2 ^ 64
  · obtain ⟨length, mapped, value⟩ := gives.value fits
    exact Or.inr ⟨length, value, mapped⟩
  · exact Or.inl ⟨Nat.le_of_not_lt fits, gives.nothing fits⟩

/-- A mapping has whole pages, at least as many as a growth must have, and room for the units. -/
theorem mapLength_spec {page : PageSize} {minPages units length : Word}
    (fits : mapLength page minPages units = some length) :
    page.bytes.toNat ∣ length.toNat ∧ 16 * units.toNat ≤ length.toNat ∧
      page.bytes.toNat * minPages.toNat ≤ length.toNat := by
  obtain ⟨least, ⟨⟨whole, enough⟩, -⟩, ⟨-, none⟩ | ⟨word, same, some⟩⟩ :=
    exists_isLeast_lengths page minPages units
  · rw [none] at fits
    cases fits
  · rw [some] at fits
    cases fits
    rw [same]
    exact ⟨whole, max_le_iff.mp enough⟩

/-- So a mapping has whole units too. -/
theorem sixteen_dvd_mapLength {page : PageSize} {minPages units length : Word}
    (fits : mapLength page minPages units = some length) : 16 ∣ length.toNat :=
  page.whole.trans (mapLength_spec fits).1

/-! ### Growth -/

section Growth

variable {S : Type}

theorem count_eq (pages : Word) (heap : PageHeap S) :
    count pages heap =
      match plus heap.pages pages with
      | .error fault => .error fault heap
      | .ok total =>
        match plus heap.growths 1 with
        | .error fault => .error fault { heap with pages := total }
        | .ok growths => .ok () { heap with pages := total, growths } := by
  unfold count
  rw [get_bind]
  cases plus heap.pages pages with
  | error fault => rfl
  | ok total =>
    have counted : (modify ({ · with pages := total }) : EStateM Fault (PageHeap S) Unit) heap =
      .ok () { heap with pages := total } := rfl
    rw [ofExcept_bind rfl, bind_of_ok counted, get_bind]
    cases plus heap.growths 1 <;> rfl

variable [Mapper S]

theorem grow_eq (requested : Word) (heap : PageHeap S) :
    grow requested heap =
      match mapLength (Mapper.pageSize S) heap.minPages requested with
      | none => .ok (.error .overflow) heap
      | some length =>
        match Mapper.map heap.system length with
        | (.failed errno, system) => .ok (.error (.refused errno)) { heap with system }
        | (.placed start, system) =>
          if start = 0 then .ok (.error .nullMapping) { heap with system }
          else
            match count (length / (Mapper.pageSize S).bytes) { heap with system } with
            | .error fault after => .error fault after
            | .ok () after => .ok (.ok { start, units := length / unitBytes }) after := by
  unfold grow
  rw [get_bind]
  cases mapLength (Mapper.pageSize S) heap.minPages requested with
  | none => rfl
  | some length =>
    show (askSystem length >>= _) heap = _
    have asked : askSystem length heap = .ok (Mapper.map heap.system length).1
      { heap with system := (Mapper.map heap.system length).2 } := rfl
    rw [bind_of_ok asked]
    dsimp only
    obtain ⟨answer, system⟩ := Mapper.map heap.system length
    cases answer with
    | failed errno => rfl
    | placed start =>
      dsimp only
      by_cases null : start = 0
      · rw [if_pos null, if_pos null]
        rfl
      · rw [if_neg null, if_neg null]
        cases counted : count (length / (Mapper.pageSize S).bytes) { heap with system } with
        | ok _ _ => rw [bind_of_ok counted]; rfl
        | error _ _ => rw [bind_of_error counted]

variable {heap after : PageHeap S} {requested : Word}

/-- A growth that succeeds hands over one mapping, and counts it. -/
theorem grow_ok {region : Region} (granted : grow requested heap = .ok (.ok region) after) :
    ∃ length, mapLength (Mapper.pageSize S) heap.minPages requested = some length ∧
      Mapper.map heap.system length = (.placed region.start, after.system) ∧ region.start ≠ 0 ∧
      region.units = length / unitBytes ∧
      plus heap.pages (length / (Mapper.pageSize S).bytes) = .ok after.pages ∧
      plus heap.growths 1 = .ok after.growths ∧ after.minPages = heap.minPages := by
  rw [grow_eq] at granted
  split at granted
  · cases granted
  next length fits =>
  split at granted
  · cases granted
  next start system placed =>
  split at granted
  · cases granted
  next notNull =>
  rw [count_eq] at granted
  dsimp only at granted
  cases total : plus heap.pages (length / (Mapper.pageSize S).bytes) with
  | error fault =>
    rw [total] at granted
    cases granted
  | ok pages =>
    cases counted : plus heap.growths 1 with
    | error fault =>
      rw [total, counted] at granted
      cases granted
    | ok growths =>
      rw [total, counted] at granted
      cases granted
      exact ⟨length, fits, placed, notNull, rfl, total, rfl, rfl⟩

/-- A growth that is refused has made no mapping, or one that begins at the null address, and
counts nothing. -/
theorem grow_error {error : MapError} (refused : grow requested heap = .ok (.error error) after) :
    (after.system = heap.system ∨
        ∃ length answer, Mapper.map heap.system length = (answer, after.system) ∧
          ∀ start, answer = .placed start → start = 0) ∧
      after.minPages = heap.minPages ∧ after.pages = heap.pages ∧ after.growths = heap.growths := by
  rw [grow_eq] at refused
  split at refused
  · cases refused
    exact ⟨Or.inl rfl, rfl, rfl, rfl⟩
  next length fits =>
  split at refused
  · next errno system answered =>
    cases refused
    exact ⟨Or.inr ⟨length, _, answered, nofun⟩, rfl, rfl, rfl⟩
  next start system answered =>
  split at refused
  · next null =>
    cases refused
    exact ⟨Or.inr ⟨length, _, answered, by rintro _ ⟨⟩; exact null⟩, rfl, rfl, rfl⟩
  · split at refused <;> cases refused

/-- A growth faults only if one of the counts does not fit in a word. -/
theorem grow_fault {fault : Fault} (faulted : grow requested heap = .error fault after) :
    (∃ length answer, Mapper.map heap.system length = (answer, after.system)) ∧
      after.minPages = heap.minPages ∧
      ∃ length : Word,
        2 ^ 64 ≤ heap.pages.toNat + (length / (Mapper.pageSize S).bytes).toNat ∨
          2 ^ 64 ≤ heap.growths.toNat + 1 := by
  rw [grow_eq] at faulted
  split at faulted
  · cases faulted
  next length fits =>
  split at faulted
  · cases faulted
  next start system answered =>
  split at faulted
  · cases faulted
  rw [count_eq] at faulted
  dsimp only at faulted
  cases total : plus heap.pages (length / (Mapper.pageSize S).bytes) with
  | error fault =>
    rw [total] at faulted
    cases faulted
    exact ⟨⟨length, _, answered⟩, rfl, length, Or.inl (le_of_plus_error total)⟩
  | ok pages =>
    cases counted : plus heap.growths 1 with
    | error fault =>
      rw [total, counted] at faulted
      cases faulted
      exact ⟨⟨length, _, answered⟩, rfl, length, Or.inr (le_of_plus_error counted)⟩
    | ok growths =>
      rw [total, counted] at faulted
      cases faulted

end Growth

/-! ### Soundness -/

section Soundness

variable {S : Type} [Mapper S] {heap after : PageHeap S} {regions : List Region}

/-- A heap that has mapped nothing yet, over a system that makes sound mappings. -/
structure Fresh (heap : PageHeap S) : Prop where
  mapper : Mapper.Sound heap.system
  minPages : heap.minPages ≠ 0
  pages : heap.pages = 0
  growths : heap.growths = 0

theorem fresh_create {minPages : Word} {system : S} (mapper : Mapper.Sound system)
    (created : create minPages system = .ok heap) : heap.Fresh := by
  unfold create at created
  split at created
  · cases created
  · next nonzero =>
    cases created
    exact ⟨mapper, nonzero, rfl, rfl⟩

/-- Every region is a mapping of the system. -/
theorem exists_mappings (reached : Grower.Reaches heap regions after) :
    after.minPages = heap.minPages ∧ ∃ mappings, Mapper.Reaches heap.system mappings after.system ∧
      ∀ region ∈ regions, ∃ mapping ∈ mappings, mapping.start = region.start ∧
        mapping.length.toNat = 16 * region.units.toNat := by
  induction reached with
  | fresh => exact ⟨rfl, [], .fresh, List.forall_mem_nil _⟩
  | granted _ granted inductionHypothesis =>
    obtain ⟨same, mappings, mapped, listed⟩ := inductionHypothesis
    obtain ⟨length, fits, placed, -, units, -, -, sameAfter⟩ := grow_ok granted
    have whole := sixteen_dvd_mapLength fits
    refine ⟨sameAfter.trans same, _, mapped.placed placed, List.forall_mem_cons.mpr
      ⟨⟨_, List.mem_cons_self, rfl, ?_⟩, fun region member => ?_⟩⟩
    · have unitSize : unitBytes.toNat = 16 := rfl
      rw [units, UInt64.toNat_div, unitSize]
      show length.toNat = _
      omega
    · obtain ⟨mapping, earlier, here⟩ := listed region member
      exact ⟨mapping, List.mem_cons_of_mem _ earlier, here⟩
  | refused _ refused inductionHypothesis =>
    obtain ⟨same, mappings, mapped, listed⟩ := inductionHypothesis
    obtain ⟨system, sameAfter, -, -⟩ := grow_error refused
    refine ⟨sameAfter.trans same, ?_⟩
    rcases system with system | ⟨length, answer, answered, -⟩
    · exact ⟨mappings, system ▸ mapped, listed⟩
    · obtain ⟨more, mappedAfter⟩ := mapped.map answered
      refine ⟨_, mappedAfter, fun region member => ?_⟩
      obtain ⟨mapping, earlier, here⟩ := listed region member
      exact ⟨mapping, List.mem_append_right _ earlier, here⟩
  | faulted _ faulted inductionHypothesis =>
    obtain ⟨same, mappings, mapped, listed⟩ := inductionHypothesis
    obtain ⟨⟨length, answer, answered⟩, sameAfter, -⟩ := grow_fault faulted
    obtain ⟨more, mappedAfter⟩ := mapped.map answered
    refine ⟨sameAfter.trans same, _, mappedAfter, fun region member => ?_⟩
    obtain ⟨mapping, earlier, here⟩ := listed region member
    exact ⟨mapping, List.mem_append_right _ earlier, here⟩

/-- What a heap of pages holds besides its system: the fewest pages of a growth and its counts. -/
def counts (heap : PageHeap S) : Word × Word × Word :=
  (heap.minPages, heap.pages, heap.growths)

/-- A heap of pages that is refused a mapping counts nothing. -/
theorem steady (heap : PageHeap S) : Grower.Steady heap counts := by
  intro _ grower after _ _ _ refused
  obtain ⟨-, minPages, pages, growths⟩ := grow_error refused
  rw [counts, counts, minPages, pages, growths]

/-- A heap of pages is sound if its system is. -/
theorem sound (fresh : heap.Fresh) : Grower.Sound heap := by
  refine ⟨fun {regions grower after requested region} reached granted => ?_⟩
  obtain ⟨-, mappings, mapped, listed⟩ := exists_mappings reached
  obtain ⟨length, fits, placed, notNull, units, -, -, -⟩ := grow_ok granted
  have whole := sixteen_dvd_mapLength fits
  obtain ⟨-, enough, -⟩ := mapLength_spec fits
  have suits := fresh.mapper.suits mapped placed notNull
  have unitSize : unitBytes.toNat = 16 := rfl
  have size : length.toNat = 16 * region.units.toNat := by
    rw [units, UInt64.toNat_div, unitSize]
    omega
  have within := suits.within
  refine ⟨⟨suits.aligned, notNull, by omega⟩, UInt64.le_iff_toNat_le.mpr (by omega),
    fun earlier member => ?_⟩
  obtain ⟨mapping, earlierMember, start, earlierSize⟩ := listed earlier member
  have apart := suits.apart mapping earlierMember
  rw [Finset.disjoint_left]
  intro place here there
  rw [Region.stretch, mem_stretch] at here there
  rw [start, earlierSize] at apart
  unfold unitOf at here there
  omega

/-- A heap of pages has counted its regions and the pages in them, all of which have units. -/
structure Counted (regions : List Region) (heap : PageHeap S) : Prop where
  pages : 16 * (owned regions).card = (Mapper.pageSize S).bytes.toNat * heap.pages.toNat
  growths : regions.length = heap.growths.toNat
  nonempty : ∀ region ∈ regions, 1 ≤ region.units.toNat

/-- The counts are bounded by the units of the address space, so that one more growth can be
counted. -/
theorem Counted.grow_ne_error (counted : Counted regions after) (fresh : heap.Fresh)
    (reached : Grower.Reaches heap regions after) {requested : Word} {fault : Fault}
    {later : PageHeap S} : grow requested after ≠ .error fault later := by
  intro faulted
  obtain ⟨-, -, length, beyond⟩ := grow_fault faulted
  have pages := counted.pages
  have growths := counted.growths
  have bound := (sound fresh).card_owned_le reached
  have sum := (sound fresh).card_owned reached
  have most := List.length_le_sum_of_one_le _ (List.forall_mem_map.mpr counted.nonempty)
  have fewer := Nat.mul_le_mul_right after.pages.toNat (Mapper.pageSize S).sixteen_le
  have few := (Mapper.pageSize S).div_le length.toNat
  have size := length.toNat_lt
  rw [List.length_map, ← sum] at most
  rw [UInt64.toNat_div] at beyond
  omega

/-- The counts of a heap of pages are right. -/
theorem counted (fresh : heap.Fresh) (reached : Grower.Reaches heap regions after) :
    Counted regions after := by
  have unitSize : unitBytes.toNat = 16 := rfl
  have one : (1 : Word).toNat = 1 := rfl
  induction reached with
  | fresh =>
    refine ⟨?_, ?_, List.forall_mem_nil _⟩
    · rw [fresh.pages]
      rfl
    · rw [fresh.growths]
      rfl
  | granted reached granted inductionHypothesis =>
    obtain ⟨units, count, nonempty⟩ := inductionHypothesis
    obtain ⟨length, fits, placed, -, size, pages, growths, -⟩ := grow_ok granted
    obtain ⟨whole, -, least⟩ := mapLength_spec fits
    have wholeUnits := sixteen_dvd_mapLength fits
    have pagesAfter := toNat_of_plus pages
    have growthsAfter := toNat_of_plus growths
    have minPages : 0 < heap.minPages.toNat := toNat_pos_of_ne_zero fresh.minPages
    rw [(exists_mappings reached).1] at least
    have some := Nat.mul_le_mul (Mapper.pageSize S).sixteen_le minPages
    have sum := (sound fresh).card_owned (reached.granted granted)
    rw [List.map_cons, List.sum_cons, ← (sound fresh).card_owned reached, size,
      UInt64.toNat_div, unitSize] at sum
    rw [UInt64.toNat_div] at pagesAfter
    rw [one] at growthsAfter
    refine ⟨?_, ?_, List.forall_mem_cons.mpr ⟨?_, nonempty⟩⟩
    · rw [pagesAfter, PageSize.mul_add_div _ _ whole, ← units]
      omega
    · rw [List.length_cons, count, growthsAfter]
    · rw [size, UInt64.toNat_div, unitSize]
      omega
  | refused _ refused inductionHypothesis =>
    obtain ⟨-, -, pages, growths⟩ := grow_error refused
    exact ⟨pages ▸ inductionHypothesis.pages, growths ▸ inductionHypothesis.growths,
      inductionHypothesis.nonempty⟩
  | faulted reached faulted inductionHypothesis =>
    exact absurd faulted (inductionHypothesis.grow_ne_error fresh reached)

/-- A heap of pages never stops at a fault. -/
theorem faultless (fresh : heap.Fresh) (fault : Fault) : ¬Grower.Faults heap fault := by
  rintro ⟨regions, grower, after, requested, reached, -, faulted⟩
  exact (counted fresh reached).grow_ne_error fresh reached faulted

/-- A heap of pages has handed over as many bytes as there are in the pages that it counts. -/
theorem card_owned (fresh : heap.Fresh) (reached : Grower.Reaches heap regions after) :
    16 * (owned regions).card = (Mapper.pageSize S).bytes.toNat * after.pages.toNat :=
  (counted fresh reached).pages

end Soundness

end PageHeap

/-! ### A system with a plan -/

/-- A system without a rule answers by its plan, and once that is used up it maps nothing. -/
theorem PlannedMapper.map_nowhere {system after : PlannedMapper} {length : Word}
    {answer : MapAnswer} (nowhere : system.placement = .nowhere)
    (mapped : Mapper.map system length = (answer, after)) :
    after.placement = .nowhere ∧ after.answers = system.answers.tail ∧
      (system.answers = [] → answer = .failed .noMemory) := by
  obtain ⟨arena, answers, placement, position, calls⟩ := system
  obtain rfl : placement = .nowhere := nowhere
  cases answers with
  | nil =>
    obtain ⟨rfl, rfl⟩ := Prod.mk.inj mapped
    exact ⟨rfl, rfl, fun _ => rfl⟩
  | cons planned answers =>
    obtain ⟨rfl, rfl⟩ := Prod.mk.inj mapped
    exact ⟨rfl, rfl, nofun⟩

/-- A system that makes one mapping and no other. -/
def singleMapping : PlannedMapper :=
  .create { base := 65536, pages := 4 } [.page 0] .nowhere

theorem singleMapping_sound : Mapper.Sound singleMapping := by
  have states : ∀ {mappings system}, Mapper.Reaches singleMapping mappings system →
      system.placement = .nowhere ∧
        (mappings = [] ∧ system.arena = singleMapping.arena ∧ system.answers = [.page 0] ∨
          system.answers = []) := by
    intro mappings system reached
    induction reached with
    | fresh => exact ⟨rfl, Or.inl ⟨rfl, rfl, rfl⟩⟩
    | placed _ mapped inductionHypothesis =>
      obtain ⟨placement, answers, -⟩ := PlannedMapper.map_nowhere inductionHypothesis.1 mapped
      obtain ⟨-, ⟨-, -, planned⟩ | planned⟩ := inductionHypothesis <;>
        exact ⟨placement, Or.inr (answers.trans (congrArg List.tail planned))⟩
    | failed _ mapped inductionHypothesis =>
      obtain ⟨placement, answers, -⟩ := PlannedMapper.map_nowhere inductionHypothesis.1 mapped
      obtain ⟨-, ⟨-, -, planned⟩ | planned⟩ := inductionHypothesis <;>
        exact ⟨placement, Or.inr (answers.trans (congrArg List.tail planned))⟩
  refine ⟨fun {mappings system after length start} reached mapped _ => ?_⟩
  obtain ⟨nowhere, ⟨rfl, arena, planned⟩ | planned⟩ := states reached
  · have answer : (Mapper.map system length).1 =
        PlannedMapper.answerOf (singleMapping.arena.place? 0 (length.toNat / 4096)) := by
      rw [← arena]
      show (PlannedMapper.map system length).1 = _
      rw [PlannedMapper.map, planned]
      rfl
    have placed := answer.symm.trans (congrArg Prod.fst mapped)
    rw [Arena.place?] at placed
    split at placed
    · next few =>
      have four : singleMapping.arena.pages = 4 := rfl
      injection placed with begins
      have base : start.toNat = 65536 := congrArg UInt64.toNat begins.symm
      exact ⟨by omega, by omega, List.forall_mem_nil _⟩
    · cases placed
  · cases (PlannedMapper.map_nowhere nowhere mapped).2.2 planned

/-- A heap whose pages come from the single mapping. -/
def singlePage : PageHeap PlannedMapper := { minPages := 1, system := singleMapping }

theorem singlePage_fresh : singlePage.Fresh :=
  ⟨singleMapping_sound, by decide, rfl, rfl⟩

end NextFit
