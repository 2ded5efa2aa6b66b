/-
This file states what the arithmetic on alignments and increments computes, at every word.
The masks divide and multiply by a power of two, and the quotient that is taken one too low
and raised again is the one rounded up. None of this stops short of the last multiple that
a word holds, and all of it has no answer past that. So a request that is absurdly large
is never counted as a small one.
-/

import NextFit.Proofs.Units

namespace NextFit

variable {alignment value : Word}

/-! ### Counts -/

/-- The two ways of rounding up agree wherever both are defined. -/
theorem alignUp?_eq_roundUp? (value : Word) (power : isPowerOfTwo alignment = true) :
    alignUp? value alignment = .ok (roundUp? value alignment) := by
  have nonzero : alignment ≠ 0 := by
    rintro rfl
    cases power
  obtain ⟨answer, result, gives⟩ := alignUp?_gives value power
  rw [result, gives.unique (roundUp?_gives value nonzero)]

/-- Every count is the exact one up to the last that a word holds. None of the sums on the way
wraps, and rounding up by a quotient and rounding up by a mask are the same for a power of two. -/
theorem counts_are_exact :
    (∀ bytes objectSize alignment : Word, objectSize ≠ 0 → alignment.toNat.isPowerOfTwo →
      ∃ answer, objectCount bytes objectSize alignment = .ok answer ∧
        Gives answer ((alignment.toNat * (bytes.toNat ⌈/⌉ alignment.toNat)) ⌈/⌉ objectSize.toNat)
          (alignment.toNat * (bytes.toNat ⌈/⌉ alignment.toNat) < 2 ^ 64)) ∧
    (∀ size, ∃ answer, blockUnits size = .ok answer ∧
      Gives answer (size.toNat ⌈/⌉ (16 : Nat) + 1) (size.toNat ≤ 2 ^ 64 - 16)) ∧
    (∀ value increment : Word, increment ≠ 0 →
      (value ≠ 0 → ((value - 1) / increment).toNat + 1 < 2 ^ 64) ∧
      Gives (roundUp? value increment) (increment.toNat * (value.toNat ⌈/⌉ increment.toNat))
        (increment.toNat * (value.toNat ⌈/⌉ increment.toNat) < 2 ^ 64)) ∧
    (∀ value increment : Word, increment.toNat.isPowerOfTwo →
      alignUp? value increment = .ok (roundUp? value increment)) := by
  refine ⟨fun bytes objectSize alignment nonzero power => ?_, blockUnits_gives,
    fun value increment nonzero => ⟨fun some => ?_, roundUp?_gives value nonzero⟩,
    fun value increment power => ?_⟩
  · exact objectCount_gives bytes nonzero (isPowerOfTwo_iff.mpr power)
  · exact pred_div_succ_lt some increment
  · exact alignUp?_eq_roundUp? value (isPowerOfTwo_iff.mpr power)

/-- An object size that is no power of two, a last size that has a block and the next one, and an
increment that is no power of two. -/
theorem counts_are_exact_at_last_word :
    (∃ count, objectCount 100 48 16 = .ok (some count) ∧ count.toNat = 3) ∧
    objectCount 18446744073709551601 48 16 = .ok none ∧
    (∃ units, blockUnits 18446744073709551600 = .ok (some units) ∧ units.toNat = 2 ^ 60) ∧
    blockUnits 18446744073709551601 = .ok none ∧
    (∃ multiple, roundUp? 10 6 = some multiple ∧ multiple.toNat = 12) ∧
    alignUp? 18446744073709551601 16 = .ok (roundUp? 18446744073709551601 16) := by
  obtain ⟨counts, units, increments, agree⟩ := counts_are_exact
  have sixteen : (16 : Word).toNat.isPowerOfTwo := ⟨4, rfl⟩
  refine ⟨?_, ?_, ?_, ?_, ?_, agree _ _ sixteen⟩
  · obtain ⟨answer, result, gives⟩ := counts 100 48 16 (by decide) sixteen
    obtain ⟨count, rfl, value⟩ := gives.value (by decide)
    exact ⟨count, result, value⟩
  · obtain ⟨answer, result, gives⟩ := counts 18446744073709551601 48 16 (by decide) sixteen
    rw [result, gives.nothing (by decide)]
  · obtain ⟨answer, result, gives⟩ := units 18446744073709551600
    obtain ⟨count, rfl, value⟩ := gives.value (by decide)
    exact ⟨count, result, value⟩
  · obtain ⟨answer, result, gives⟩ := units 18446744073709551601
    rw [result, gives.nothing (by decide)]
  · exact (increments 10 6 (by decide)).2.value (by decide)

/-! ### Masks -/

/-- The functions that take an alignment compute, at a value, what division by it does. -/
structure Rounds (alignment value : Word) : Prop where
  down : ∃ multiple, alignDown value alignment = .ok multiple ∧
    multiple.toNat = alignment.toNat * (value.toNat / alignment.toNat)
  aligned : isAligned value alignment = .ok (decide (alignment.toNat ∣ value.toNat))
  up : ∃ answer, alignUp? value alignment = .ok answer ∧
    Gives answer (alignment.toNat * (value.toNat ⌈/⌉ alignment.toNat))
      (alignment.toNat * (value.toNat ⌈/⌉ alignment.toNat) < 2 ^ 64)
  /-- There is one number less than the alignment that completes the value to a multiple. -/
  missing : ∃! rest, Missing alignment.toNat value.toNat rest
  /-- It is the padding if the multiple is a word. -/
  reached : ∀ rest, Missing alignment.toNat value.toNat rest → value.toNat + rest < 2 ^ 64 →
    (∃ multiple, alignUp value alignment = .ok multiple ∧
      multiple.toNat = value.toNat + rest) ∧
    ∃ bytes, padding value alignment = .ok bytes ∧ bytes.toNat = rest
  /-- Otherwise the fault says so. -/
  beyond : ∀ rest, Missing alignment.toNat value.toNat rest → 2 ^ 64 ≤ value.toNat + rest →
    ∃ fault, alignUp value alignment = .error fault ∧ padding value alignment = .error fault ∧
      fault.message = "align_up overflowed usize"

/-- The functions that take an alignment have a fault, at a value, because of the alignment. -/
structure RefusesToRound (alignment value : Word) : Prop where
  down : alignDown value alignment = .error (.notPowerOfTwo alignment)
  aligned : isAligned value alignment = .error (.notPowerOfTwo alignment)
  up? : alignUp? value alignment = .error (.notPowerOfTwo alignment)
  up : alignUp value alignment = .error (.notPowerOfTwo alignment)
  padding : padding value alignment = .error (.notPowerOfTwo alignment)

theorem rounds_of_power (power : isPowerOfTwo alignment = true) (value : Word) :
    Rounds alignment value where
  down := by
    refine ⟨(⟨alignment, power⟩ : Alignment).down value, ?_, ?_⟩
    · rw [alignDown, Alignment.ofWord_eq power]
      rfl
    · rw [Alignment.toNat_down, Nat.mul_comm]
  aligned := isAligned_eq power
  up := alignUp?_gives value power
  missing := existsUnique_missing (Alignment.toNat_pos ⟨alignment, power⟩) value.toNat
  reached rest missing fits := by
    rw [alignUp, NextFit.padding, Alignment.ofWord_eq power]
    exact ⟨Alignment.up_of_missing ⟨alignment, power⟩ missing fits,
      Alignment.padding_of_missing ⟨alignment, power⟩ missing fits⟩
  beyond rest missing beyond := by
    rw [alignUp, NextFit.padding, Alignment.ofWord_eq power]
    exact ⟨.alignUpOverflow, Alignment.up_of_beyond ⟨alignment, power⟩ missing beyond,
      Alignment.padding_of_beyond ⟨alignment, power⟩ missing beyond, rfl⟩

/-- Whatever is done with an alignment, it is looked at first. -/
theorem ofWord_bind_of_not_power {α : Type} (odd : isPowerOfTwo alignment = false)
    (rest : Alignment → Except Fault α) :
    (Alignment.ofWord alignment >>= rest) = .error (.notPowerOfTwo alignment) := by
  rw [Alignment.ofWord_of_not_power odd]
  rfl

theorem refusesToRound_of_not_power (odd : isPowerOfTwo alignment = false) (value : Word) :
    RefusesToRound alignment value where
  down := ofWord_bind_of_not_power odd _
  aligned := ofWord_bind_of_not_power odd _
  up? := ofWord_bind_of_not_power odd _
  up := ofWord_bind_of_not_power odd _
  padding := ofWord_bind_of_not_power odd _

/-- The exponent of a power of two that is a word is less than the number of bits. -/
theorem isPowerOfTwo_iff_lt :
    isPowerOfTwo value = true ↔ ∃ exponent < 64, value.toNat = 2 ^ exponent := by
  rw [isPowerOfTwo_iff]
  refine ⟨fun ⟨exponent, power⟩ => ⟨exponent, ?_, power⟩,
    fun ⟨exponent, _, power⟩ => ⟨exponent, power⟩⟩
  have bound := value.toNat_lt
  rw [power] at bound
  exact (Nat.pow_lt_pow_iff_right (by decide)).mp bound

/-- The masks are the arithmetic that they stand for. -/
theorem masks_are_arithmetic (alignment : Word) :
    (isPowerOfTwo alignment = true ↔ ∃ exponent < 64, alignment.toNat = 2 ^ exponent) ∧
    ((∃ exponent < 64, alignment.toNat = 2 ^ exponent) → ∀ value, Rounds alignment value) ∧
    ((¬∃ exponent < 64, alignment.toNat = 2 ^ exponent) →
      ∀ value, RefusesToRound alignment value) := by
  refine ⟨isPowerOfTwo_iff_lt, fun power => ?_, fun odd => ?_⟩
  · exact rounds_of_power (isPowerOfTwo_iff_lt.mpr power)
  · exact refusesToRound_of_not_power (Bool.eq_false_iff.mpr (mt isPowerOfTwo_iff_lt.mp odd))

/-- The greatest alignment at the last word, the least one there, and two words that are no
alignments. -/
theorem masks_are_arithmetic_at_last_word :
    Rounds 9223372036854775808 18446744073709551615 ∧
    alignUp? 18446744073709551615 9223372036854775808 = .ok none ∧
    Rounds 1 18446744073709551615 ∧
    RefusesToRound 24 18446744073709551615 ∧ RefusesToRound 0 18446744073709551615 := by
  have greatest := (masks_are_arithmetic 9223372036854775808).2.1 ⟨63, by decide, rfl⟩
  have odd : ¬∃ exponent < 64, (24 : Word).toNat = 2 ^ exponent := by decide
  have zero : ¬∃ exponent < 64, (0 : Word).toNat = 2 ^ exponent := by decide
  refine ⟨greatest _, ?_, (masks_are_arithmetic 1).2.1 ⟨0, by decide, rfl⟩ _,
    (masks_are_arithmetic 24).2.2 odd _, (masks_are_arithmetic 0).2.2 zero _⟩
  obtain ⟨answer, result, gives⟩ := (greatest 18446744073709551615).up
  rw [result, gives.nothing (by decide)]

end NextFit
