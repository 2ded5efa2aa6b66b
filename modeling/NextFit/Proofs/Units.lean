/-
This file says in plain numbers what the masks of the alignment arithmetic compute, and
what rounding to an increment that is no power of two does. Either way of rounding gives
the least multiple that is not below the value, just if a word holds it. From that follow
how many objects hold some bytes, how many units the block for a request has and how far the
payload of a block is from a multiple of an alignment.
-/

import NextFit.Proofs.Stretch
import NextFit.Units
import NextFit.Memory.Basic
import Mathlib.Algebra.Order.Floor.Div

namespace NextFit

/-! ### Multiples -/

/-- The least multiple of a number that is not below another one. -/
theorem isLeast_mul_ceilDiv (value : Nat) {increment : Nat} (positive : 0 < increment) :
    IsLeast {multiple | increment ∣ multiple ∧ value ≤ multiple}
      (increment * (value ⌈/⌉ increment)) := by
  refine ⟨⟨Nat.dvd_mul_right _ _, le_smul_ceilDiv positive⟩, ?_⟩
  rintro _ ⟨⟨count, rfl⟩, above⟩
  exact Nat.mul_le_mul_left _ ((ceilDiv_le_iff_le_smul positive).mpr above)

/-- The least multiple is less than one more away. -/
theorem mul_ceilDiv_le (value : Nat) {increment : Nat} (positive : 0 < increment) :
    increment * (value ⌈/⌉ increment) ≤ value + (increment - 1) := by
  rw [Nat.ceilDiv_eq_add_pred_div, Nat.add_sub_assoc positive]
  exact Nat.mul_div_le _ _

/-- What is missing from a value to the next multiple of a number. -/
structure Missing (number value rest : Nat) : Prop where
  less : rest < number
  divides : number ∣ value + rest

theorem Missing.sum_eq {number value rest : Nat} (missing : Missing number value rest) :
    value + rest = number * (value ⌈/⌉ number) := by
  have positive := Nat.zero_lt_of_lt missing.less
  obtain ⟨⟨divides, above⟩, least⟩ := isLeast_mul_ceilDiv value positive
  refine Nat.le_antisymm ?_ (least ⟨missing.divides, Nat.le_add_right _ _⟩)
  -- A multiple that is above the least one is above it by the number or more.
  exact Nat.le_of_lt_add_of_dvd (Nat.add_lt_add_of_le_of_lt above missing.less) missing.divides
    divides

theorem existsUnique_missing {number : Nat} (positive : 0 < number) (value : Nat) :
    ∃! rest, Missing number value rest := by
  obtain ⟨⟨divides, above⟩, -⟩ := isLeast_mul_ceilDiv value positive
  have most := mul_ceilDiv_le value positive
  refine ⟨number * (value ⌈/⌉ number) - value, ⟨by omega, ?_⟩, fun rest missing => ?_⟩
  · rw [Nat.add_sub_cancel' above]
    exact divides
  · rw [← missing.sum_eq, Nat.add_sub_cancel_left]

/-- A quotient is rounded up if there is a remainder. -/
theorem ceilDiv_eq_div_add (value : Nat) {divisor : Nat} (positive : 0 < divisor) :
    value ⌈/⌉ divisor = value / divisor + if value % divisor = 0 then 0 else 1 := by
  have less := Nat.mod_lt value positive
  have sum : value + divisor - 1 =
      divisor * (value / divisor) + (value % divisor + (divisor - 1)) := by
    rw [← Nat.add_assoc, Nat.div_add_mod, Nat.add_sub_assoc positive]
  rw [Nat.ceilDiv_eq_add_pred_div, sum, Nat.mul_add_div positive, Nat.add_right_inj]
  split
  · exact Nat.div_eq_of_lt (by omega)
  · exact Nat.div_eq_of_lt_le (by omega) (by omega)

/-! ### Answers -/

/-- An answer is a number if a condition is met, and otherwise there is no answer. -/
structure Gives (answer : Option Word) (number : Nat) (condition : Prop) : Prop where
  value : condition → ∃ word, answer = some word ∧ word.toNat = number
  nothing : ¬condition → answer = none

/-- There is only one such answer. -/
theorem Gives.unique {answer other : Option Word} {number : Nat} {condition : Prop}
    (gives : Gives answer number condition) (otherGives : Gives other number condition) :
    other = answer := by
  by_cases met : condition
  · obtain ⟨word, rfl, value⟩ := gives.value met
    obtain ⟨otherWord, rfl, otherValue⟩ := otherGives.value met
    rw [UInt64.toNat_inj.mp (otherValue.trans value.symm)]
  · rw [gives.nothing met, otherGives.nothing met]

/-- An answer that is computed from another one. -/
theorem Gives.bind {answer : Option Word} {number total : Nat} {condition whole : Prop}
    {next : Word → Option Word} (gives : Gives answer number condition) (needs : whole → condition)
    (step : condition → ∀ word : Word, word.toNat = number → Gives (next word) total whole) :
    Gives (answer >>= next) total whole := by
  by_cases met : condition
  · obtain ⟨word, rfl, value⟩ := gives.value met
    exact step met word value
  · rw [gives.nothing met]
    exact ⟨fun holds => absurd (needs holds) met, fun _ => rfl⟩

theorem plus?_gives (left right : Word) :
    Gives (plus? left right) (left.toNat + right.toNat) (left.toNat + right.toNat < 2 ^ 64) where
  value fits := ⟨_, plus?_of_lt fits, toNat_of_plus? (plus?_of_lt fits)⟩
  nothing beyond := plus?_of_le (Nat.le_of_not_lt beyond)

theorem times?_gives (left right : Word) :
    Gives (times? left right) (left.toNat * right.toNat) (left.toNat * right.toNat < 2 ^ 64) where
  value fits := ⟨_, times?_of_lt fits, toNat_of_times? (times?_of_lt fits)⟩
  nothing beyond := times?_of_le (Nat.le_of_not_lt beyond)

/-! ### Powers of two -/

theorem isPowerOfTwo_iff {value : Word} :
    isPowerOfTwo value = true ↔ ∃ exponent, value.toNat = 2 ^ exponent := by
  have zero : (0 : Word).toNat = 0 := rfl
  have one : (1 : Word).toNat = 1 := rfl
  rw [isPowerOfTwo, Bool.and_eq_true, bne_iff_ne, beq_iff_eq, ne_eq, ← UInt64.toNat_inj,
    ← UInt64.toNat_inj, zero]
  by_cases nonzero : value.toNat = 0
  · simp only [nonzero, not_true_eq_false, false_and, false_iff, not_exists]
    exact fun exponent => (Nat.ne_of_lt (Nat.two_pow_pos exponent))
  · rw [UInt64.toNat_and, UInt64.toNat_sub_of_le _ _ (UInt64.le_iff_toNat_le.mpr (by omega)), one]
    exact Nat.ne_zero_and_sub_one_eq_zero_iff_isPowerOfTwo

namespace Alignment

variable {alignment : Alignment} {value multiple : Word}

theorem exists_exponent (alignment : Alignment) :
    ∃ exponent, alignment.value.toNat = 2 ^ exponent :=
  isPowerOfTwo_iff.mp alignment.power

theorem toNat_pos (alignment : Alignment) : 0 < alignment.value.toNat := by
  obtain ⟨exponent, power⟩ := alignment.exists_exponent
  rw [power]
  exact Nat.two_pow_pos exponent

theorem toNat_pred (alignment : Alignment) :
    (alignment.value - 1).toNat = alignment.value.toNat - 1 :=
  UInt64.toNat_sub_of_le _ _ (UInt64.le_iff_toNat_le.mpr alignment.toNat_pos)

/-- Clearing the bits below an alignment rounds down. -/
theorem toNat_mask (alignment : Alignment) (value : Word) :
    (value &&& ~~~(alignment.value - 1)).toNat =
      value.toNat / alignment.value.toNat * alignment.value.toNat := by
  obtain ⟨exponent, power⟩ := alignment.exists_exponent
  have bound := alignment.value.toNat_lt
  have valueBound := value.toNat_lt
  have pred := alignment.toNat_pred
  have complement :
      (~~~(alignment.value - 1)).toNat = 2 ^ 64 - (alignment.value.toNat - 1 + 1) := by
    rw [UInt64.toNat_not, pred, UInt64.size]
    omega
  refine Nat.eq_of_testBit_eq fun position => ?_
  rw [UInt64.toNat_and, Nat.testBit_and, complement,
    Nat.testBit_two_pow_sub_succ (by omega), power, Nat.testBit_two_pow_sub_one,
    Nat.testBit_mul_two_pow, Nat.testBit_div_two_pow]
  by_cases high : exponent ≤ position
  · rw [Nat.sub_add_cancel high]
    by_cases inWord : position < 64
    · simp [high, inWord, Nat.not_lt.mpr high]
    · have above : value.toNat.testBit position = false := Nat.testBit_lt_two_pow
        (Nat.lt_of_lt_of_le valueBound (Nat.pow_le_pow_right (by decide) (by omega)))
      simp [above]
  · simp [high, Nat.not_le.mp high]

theorem toNat_down (alignment : Alignment) (value : Word) :
    (alignment.down value).toNat = value.toNat / alignment.value.toNat * alignment.value.toNat :=
  alignment.toNat_mask value

/-- Rounding up fails just if the value runs past the last word, and otherwise gives the least
multiple that is not below the value. -/
theorem up?_eq_some (fits : value.toNat + (alignment.value.toNat - 1) < 2 ^ 64) :
    ∃ multiple, alignment.up? value = some multiple ∧
      multiple.toNat = (value.toNat + (alignment.value.toNat - 1)) / alignment.value.toNat *
        alignment.value.toNat := by
  rw [← alignment.toNat_pred] at fits
  refine ⟨_, by rw [up?, plus?_of_lt fits]; rfl, ?_⟩
  rw [toNat_mask, toNat_add_of_lt fits, toNat_pred]

theorem up?_eq_none (beyond : 2 ^ 64 ≤ value.toNat + (alignment.value.toNat - 1)) :
    alignment.up? value = none := by
  rw [← alignment.toNat_pred] at beyond
  rw [up?, plus?_of_le beyond]
  rfl

/-- Every alignment divides the number of words. -/
theorem dvd_size (alignment : Alignment) : alignment.value.toNat ∣ 2 ^ 64 := by
  obtain ⟨exponent, power⟩ := alignment.exists_exponent
  have bound := alignment.value.toNat_lt
  rw [power] at bound ⊢
  exact Nat.pow_dvd_pow 2 (Nat.le_of_lt ((Nat.pow_lt_pow_iff_right (by decide)).mp bound))

/-- A word holds the next multiple just if the mask is applied to a word. -/
theorem multiple_lt_iff (alignment : Alignment) (value : Word) :
    alignment.value.toNat * (value.toNat ⌈/⌉ alignment.value.toNat) < 2 ^ 64 ↔
      value.toNat + (alignment.value.toNat - 1) < 2 ^ 64 := by
  have positive := alignment.toNat_pos
  obtain ⟨⟨divides, above⟩, -⟩ := isLeast_mul_ceilDiv value.toNat positive
  have most := mul_ceilDiv_le value.toNat positive
  refine ⟨fun fits => ?_, Nat.lt_of_le_of_lt most⟩
  -- The multiple after the next one is at most the number of words, which is a multiple too.
  have next := Nat.le_of_lt_add_of_dvd (Nat.add_lt_add_right fits alignment.value.toNat)
    (Nat.dvd_add_self_right.mpr divides) alignment.dvd_size
  omega

theorem up?_gives (alignment : Alignment) (value : Word) :
    Gives (alignment.up? value) (alignment.value.toNat * (value.toNat ⌈/⌉ alignment.value.toNat))
      (alignment.value.toNat * (value.toNat ⌈/⌉ alignment.value.toNat) < 2 ^ 64) := by
  rw [multiple_lt_iff]
  refine ⟨fun fits => ?_, fun beyond => up?_eq_none (Nat.le_of_not_lt beyond)⟩
  obtain ⟨multiple, result, product⟩ := up?_eq_some fits
  refine ⟨multiple, result, ?_⟩
  rw [product, Nat.ceilDiv_eq_add_pred_div, Nat.add_sub_assoc alignment.toNat_pos, Nat.mul_comm]

theorem up_of_missing (alignment : Alignment) {rest : Nat}
    (missing : Missing alignment.value.toNat value.toNat rest) (fits : value.toNat + rest < 2 ^ 64) :
    ∃ multiple, alignment.up value = .ok multiple ∧ multiple.toNat = value.toNat + rest := by
  rw [missing.sum_eq] at fits ⊢
  obtain ⟨multiple, result, product⟩ := (alignment.up?_gives value).value fits
  exact ⟨multiple, by rw [up, result], product⟩

theorem up_of_beyond (alignment : Alignment) {rest : Nat}
    (missing : Missing alignment.value.toNat value.toNat rest)
    (beyond : 2 ^ 64 ≤ value.toNat + rest) : alignment.up value = .error .alignUpOverflow := by
  rw [missing.sum_eq] at beyond
  rw [up, (alignment.up?_gives value).nothing (Nat.not_lt.mpr beyond)]

/-- The padding is what is missing. -/
theorem padding_of_missing (alignment : Alignment) {rest : Nat}
    (missing : Missing alignment.value.toNat value.toNat rest) (fits : value.toNat + rest < 2 ^ 64) :
    ∃ bytes, alignment.padding value = .ok bytes ∧ bytes.toNat = rest := by
  obtain ⟨multiple, result, sum⟩ := alignment.up_of_missing missing fits
  have le : value ≤ multiple := by
    rw [UInt64.le_iff_toNat_le, sum]
    exact Nat.le_add_right _ _
  have difference := toNat_of_minus (minus_of_le le)
  refine ⟨multiple - value, ?_, by omega⟩
  rw [padding, result]
  exact minus_of_le le

theorem padding_of_beyond (alignment : Alignment) {rest : Nat}
    (missing : Missing alignment.value.toNat value.toNat rest)
    (beyond : 2 ^ 64 ≤ value.toNat + rest) :
    alignment.padding value = .error .alignUpOverflow := by
  rw [padding, alignment.up_of_beyond missing beyond]
  rfl

theorem ofWord_eq {value : Word} (power : isPowerOfTwo value = true) :
    ofWord value = .ok ⟨value, power⟩ := by
  rw [ofWord, ofWord?, dif_pos power]

theorem ofWord_of_not_power {value : Word} (odd : isPowerOfTwo value = false) :
    ofWord value = .error (.notPowerOfTwo value) := by
  rw [ofWord, ofWord?, dif_neg (Bool.eq_false_iff.mp odd)]

theorem value_of_ofWord {value : Word} (made : ofWord value = .ok alignment) :
    alignment.value = value := by
  cases power : isPowerOfTwo value with
  | true =>
    rw [ofWord_eq power] at made
    cases made
    rfl
  | false =>
    rw [ofWord_of_not_power power] at made
    cases made

end Alignment

theorem alignUp?_gives (value : Word) {alignment : Word} (power : isPowerOfTwo alignment = true) :
    ∃ answer, alignUp? value alignment = .ok answer ∧
      Gives answer (alignment.toNat * (value.toNat ⌈/⌉ alignment.toNat))
        (alignment.toNat * (value.toNat ⌈/⌉ alignment.toNat) < 2 ^ 64) := by
  refine ⟨_, ?_, Alignment.up?_gives ⟨alignment, power⟩ value⟩
  rw [alignUp?, Alignment.ofWord_eq power]
  rfl

theorem isPowerOfTwo_headerAlignment : isPowerOfTwo headerAlignment = true := by
  decide

theorem isAligned_eq {value alignment : Word} (power : isPowerOfTwo alignment = true) :
    isAligned value alignment = .ok (decide (alignment.toNat ∣ value.toNat)) := by
  rw [isAligned, Alignment.ofWord_eq power]
  refine congrArg Except.ok ?_
  rw [Alignment.aligned, Bool.eq_iff_iff, beq_iff_eq, decide_eq_true_eq, ← UInt64.toNat_inj,
    Alignment.toNat_down]
  exact ⟨fun same => Dvd.intro_left _ same, Nat.div_mul_cancel⟩

/-! ### Any increment -/

/-- One is added to a quotient that was taken one too low. -/
theorem toNat_pred_div {value : Word} (nonzero : value ≠ 0) (increment : Word) :
    ((value - 1) / increment).toNat = (value.toNat - 1) / increment.toNat := by
  have le : (1 : Word) ≤ value := UInt64.le_iff_toNat_le.mpr (toNat_pos_of_ne_zero nonzero)
  rw [UInt64.toNat_div, UInt64.toNat_sub_of_le _ _ le]
  rfl

/-- There is room for that in a word. -/
theorem pred_div_succ_lt {value : Word} (nonzero : value ≠ 0) (increment : Word) :
    ((value - 1) / increment).toNat + 1 < 2 ^ 64 := by
  have positive := toNat_pos_of_ne_zero nonzero
  have bound := value.toNat_lt
  have quotient := Nat.div_le_self (value.toNat - 1) increment.toNat
  rw [toNat_pred_div nonzero]
  omega

theorem toNat_pred_div_succ {value increment : Word} (nonzero : value ≠ 0) :
    ((value - 1) / increment + 1).toNat = (value.toNat - 1) / increment.toNat + 1 := by
  rw [toNat_add_of_lt (pred_div_succ_lt nonzero increment), toNat_pred_div nonzero]
  rfl

/-- Rounding up counts the increments in a word, so that only their product may be too large. -/
theorem roundUp?_eq_times? (value : Word) {increment : Word} (nonzero : increment ≠ 0) :
    ∃ count : Word, count.toNat = value.toNat ⌈/⌉ increment.toNat ∧
      roundUp? value increment = times? increment count := by
  by_cases zero : value = 0
  · refine ⟨0, ?_, ?_⟩
    · rw [zero]
      exact (zero_ceilDiv _).symm
    · have fits : increment.toNat * (0 : Word).toNat < UInt64.size := Nat.zero_lt_succ _
      rw [roundUp?, if_pos zero, times?_of_lt fits, UInt64.mul_zero]
  · have positive := toNat_pos_of_ne_zero nonzero
    have some := toNat_pos_of_ne_zero zero
    refine ⟨(value - 1) / increment + 1, ?_, by rw [roundUp?, if_neg zero]⟩
    rw [toNat_pred_div_succ zero, Nat.ceilDiv_eq_add_pred_div, ← Nat.add_div_right _ positive]
    congr 1
    omega

theorem roundUp?_gives (value : Word) {increment : Word} (nonzero : increment ≠ 0) :
    Gives (roundUp? value increment) (increment.toNat * (value.toNat ⌈/⌉ increment.toNat))
      (increment.toNat * (value.toNat ⌈/⌉ increment.toNat) < 2 ^ 64) := by
  obtain ⟨count, many, product⟩ := roundUp?_eq_times? value nonzero
  rw [product, ← many]
  exact times?_gives increment count

/-! ### Counting -/

/-- One more than the quotient, if there is a remainder, still fits in a word. -/
theorem plus_remainder (value : Word) {divisor : Word} (nonzero : divisor ≠ 0) :
    ∃ count, plus (value / divisor) (if value % divisor = 0 then 0 else 1) = .ok count ∧
      count.toNat = value.toNat ⌈/⌉ divisor.toNat := by
  have positive := toNat_pos_of_ne_zero nonzero
  have more : (if value % divisor = 0 then 0 else 1 : Word).toNat =
      if value.toNat % divisor.toNat = 0 then 0 else 1 := by
    simp only [apply_ite UInt64.toNat, ← UInt64.toNat_inj, UInt64.toNat_mod]
    rfl
  have sum : (value / divisor).toNat + (if value % divisor = 0 then 0 else 1 : Word).toNat =
      value.toNat ⌈/⌉ divisor.toNat := by
    rw [more, UInt64.toNat_div, ceilDiv_eq_div_add _ positive]
  have few : value.toNat ⌈/⌉ divisor.toNat ≤ value.toNat :=
    (ceilDiv_le_iff_le_smul positive).mpr (Nat.le_mul_of_pos_left _ positive)
  have fits := Nat.lt_of_le_of_lt (sum.trans_le few) value.toNat_lt
  exact ⟨_, plus_of_lt fits, (toNat_of_plus (plus_of_lt fits)).trans sum⟩

/-- Counting fails only if the rounded bytes are beyond the last word. -/
theorem objectCount_gives (bytes : Word) {objectSize alignment : Word} (nonzero : objectSize ≠ 0)
    (power : isPowerOfTwo alignment = true) :
    ∃ answer, objectCount bytes objectSize alignment = .ok answer ∧
      Gives answer ((alignment.toNat * (bytes.toNat ⌈/⌉ alignment.toNat)) ⌈/⌉ objectSize.toNat)
        (alignment.toNat * (bytes.toNat ⌈/⌉ alignment.toNat) < 2 ^ 64) := by
  obtain ⟨rounding, rounds, gives⟩ := alignUp?_gives bytes power
  unfold objectCount
  rw [if_neg nonzero, rounds]
  by_cases fits : alignment.toNat * (bytes.toNat ⌈/⌉ alignment.toNat) < 2 ^ 64
  · obtain ⟨rounded, rfl, value⟩ := gives.value fits
    obtain ⟨count, counted, many⟩ := plus_remainder rounded nonzero
    refine ⟨some count, ?_, fun _ => ⟨count, rfl, value ▸ many⟩, fun beyond => absurd fits beyond⟩
    simp only [bind, Except.bind, pure, Except.pure, counted]
  · obtain rfl := gives.nothing fits
    exact ⟨none, rfl, fun within => absurd within fits, fun _ => rfl⟩

/-! ### Requests -/

/-- The units of the block for a request of the given size, if there is such a block. -/
def unitsFor (size : Word) : Word :=
  ((size.toNat + 15) / 16 + 1).toUInt64

theorem toNat_unitsFor (size : Word) : (unitsFor size).toNat = (size.toNat + 15) / 16 + 1 := by
  have bound := size.toNat_lt
  have fits : (size.toNat + 15) / 16 + 1 < 2 ^ 64 := by omega
  exact UInt64.toNat_ofNat_of_lt fits

theorem unitsFor_ne_zero (size : Word) : unitsFor size ≠ 0 := by
  intro zero
  have value := toNat_unitsFor size
  have none : (unitsFor size).toNat = 0 := congrArg UInt64.toNat zero
  omega

theorem two_le_unitsFor {size : Word} (nonzero : size ≠ 0) : 2 ≤ (unitsFor size).toNat := by
  have positive : 0 < size.toNat := toNat_pos_of_ne_zero nonzero
  rw [toNat_unitsFor]
  omega

theorem unitsFor_mono {smaller larger : Word} (less : smaller ≤ larger) :
    unitsFor smaller ≤ unitsFor larger := by
  have order := UInt64.le_iff_toNat_le.mp less
  rw [UInt64.le_iff_toNat_le, toNat_unitsFor, toNat_unitsFor]
  omega

/-- The header is counted along with the units of the payload. -/
theorem blockUnits_gives (size : Word) :
    ∃ answer, blockUnits size = .ok answer ∧
      Gives answer (size.toNat ⌈/⌉ (16 : Nat) + 1) (size.toNat ≤ 2 ^ 64 - 16) := by
  have bound := size.toNat_lt
  have rounded := Nat.ceilDiv_eq_add_pred_div size.toNat 16
  have payload : (16 * (size.toNat ⌈/⌉ (16 : Nat))) ⌈/⌉ (16 : Nat) = size.toNat ⌈/⌉ (16 : Nat) :=
    smul_ceilDiv (by decide) _
  obtain ⟨answer, result, gives⟩ :=
    objectCount_gives size (by decide : unitBytes ≠ 0) isPowerOfTwo_headerAlignment
  refine ⟨answer >>= (plus? · 1), ?_, gives.bind (fun few => ?_) fun fits units many => ?_⟩
  · rw [blockUnits, result]
    cases answer <;> rfl
  · show 16 * (size.toNat ⌈/⌉ (16 : Nat)) < 2 ^ 64
    omega
  · have sum : units.toNat + (1 : Word).toNat = size.toNat ⌈/⌉ (16 : Nat) + 1 :=
      congrArg (· + 1) (many.trans payload)
    have small : 16 * (size.toNat ⌈/⌉ (16 : Nat)) < 2 ^ 64 := fits
    have always : size.toNat ≤ 2 ^ 64 - 16 ↔ units.toNat + (1 : Word).toNat < 2 ^ 64 := by omega
    rw [always, ← sum]
    exact plus?_gives units 1

/-- There is such a block unless the size is among the last words. -/
theorem blockUnits_eq (size : Word) :
    blockUnits size = .ok (if size.toNat + 15 < 2 ^ 64 then some (unitsFor size) else none) := by
  have units : (unitsFor size).toNat = size.toNat ⌈/⌉ (16 : Nat) + 1 := by
    rw [toNat_unitsFor, Nat.ceilDiv_eq_add_pred_div]
    rfl
  obtain ⟨answer, result, gives⟩ := blockUnits_gives size
  rw [result, gives.unique
    ⟨fun few => ⟨_, if_pos (by omega), units⟩, fun many => if_neg (by omega)⟩]

theorem fits_of_blockUnits {size units : Word} (needed : blockUnits size = .ok (some units)) :
    size.toNat + 15 < 2 ^ 64 ∧ units = unitsFor size := by
  rw [blockUnits_eq] at needed
  split at needed
  · next fits =>
    cases needed
    exact ⟨fits, rfl⟩
  · cases needed

/-- The bytes of the payload of a block that has units. -/
theorem bytesOf_eq (units : Word) (few : units.toNat ≤ 2 ^ 60) (some : units ≠ 0) :
    ∃ bytes, (do bytesOf (← minus units 1)) = Except.ok bytes ∧
      bytes.toNat = 16 * (units.toNat - 1) := by
  have unitSize : unitBytes.toNat = 16 := rfl
  have one : (1 : Word).toNat = 1 := rfl
  have positive : 0 < units.toNat := toNat_pos_of_ne_zero some
  have le : (1 : Word) ≤ units := UInt64.le_iff_toNat_le.mpr positive
  have less : (units - 1).toNat = units.toNat - 1 := UInt64.toNat_sub_of_le _ _ le
  have fits : (units - 1).toNat * unitBytes.toNat < 2 ^ 64 := by
    rw [less, unitSize]
    omega
  refine ⟨(units - 1) * unitBytes, ?_, ?_⟩
  · rw [minus_of_le le]
    show times (units - 1) unitBytes = _
    rw [times_of_lt fits]
  · rw [UInt64.toNat_mul, Nat.mod_eq_of_lt fits, less, unitSize, Nat.mul_comm]

/-! ### Payloads -/

theorem toNat_payloadAbove {header : Address} (fits : header.toNat + 16 < 2 ^ 64) :
    (payloadAbove header).toNat = header.toNat + 16 := by
  rw [payloadAbove, toNat_add_of_lt fits]
  rfl

/-- What has to be added to reach a multiple of the alignment is less than the alignment. -/
theorem Alignment.padding_eq (alignment : Alignment) (value : Word)
    (fits : value.toNat + (alignment.value.toNat - 1) < 2 ^ 64) :
    ∃ padding, alignment.padding value = .ok padding ∧
      padding.toNat < alignment.value.toNat ∧
      alignment.value.toNat ∣ value.toNat + padding.toNat := by
  obtain ⟨rest, missing, -⟩ := existsUnique_missing alignment.toNat_pos value.toNat
  have less := missing.less
  obtain ⟨padding, result, rfl⟩ := alignment.padding_of_missing missing (by omega)
  exact ⟨padding, result, less, missing.divides⟩

end NextFit
