/-
This file reads and replaces single bytes of a word. A word is kept with its lowest
byte first. The main statement is that a replaced byte reads back and that the other
seven bytes of the word stay as they were.
-/

import NextFit.Word

namespace NextFit

/-- The byte of a word at an index from 0 to 7, the lowest first. -/
def byteAt (word : Word) (index : Nat) : UInt8 :=
  (word >>> (8 * index).toUInt64).toUInt8

/-- The word with the byte at an index from 0 to 7 replaced. -/
def withByteAt (word : Word) (index : Nat) (byte : UInt8) : Word :=
  (word &&& ~~~((0xFF : Word) <<< (8 * index).toUInt64)) |||
    (byte.toUInt64 <<< (8 * index).toUInt64)

/-! ### Bit by bit -/

/-- The mask of a byte has the lowest eight bits. -/
theorem getLsbD_byteMask (bit : Nat) : (255#64).getLsbD bit = decide (bit < 8) := by
  by_cases bound : bit < 64
  · revert bound
    revert bit
    decide
  · rw [BitVec.getLsbD_of_ge _ _ (Nat.le_of_not_lt bound)]
    exact (decide_eq_false (by omega)).symm

theorem getLsbD_byteAt (word : Word) {index bit : Nat} (within : index < 8) (bound : bit < 8) :
    (byteAt word index).toBitVec.getLsbD bit = word.toBitVec.getLsbD (8 * index + bit) := by
  unfold byteAt
  simp only [UInt64.toBitVec_toUInt8, UInt64.toBitVec_shiftRight, BitVec.getLsbD_setWidth, bound,
    decide_true, Bool.true_and, BitVec.ushiftRight_eq', BitVec.getLsbD_ushiftRight]
  congr 2
  simp
  omega

theorem getLsbD_withByteAt (word : Word) {index bit : Nat} (within : index < 8) (byte : UInt8)
    (bound : bit < 64) :
    (withByteAt word index byte).toBitVec.getLsbD bit =
      if bit / 8 = index then byte.toBitVec.getLsbD (bit % 8) else word.toBitVec.getLsbD bit := by
  have shift : 8 * index % 18446744073709551616 % 64 = 8 * index := by omega
  unfold withByteAt
  by_cases here : bit / 8 = index
  · have start : ¬ bit < 8 * index := by omega
    have offset : bit - 8 * index = bit % 8 := by omega
    have low : bit % 8 < 8 := Nat.mod_lt _ (by decide)
    have wide : bit % 8 < 64 := by omega
    simp [UInt64.toBitVec_shiftLeft, bound, shift, here, start, offset, -BitVec.getLsbD_eq_getElem,
      getLsbD_byteMask, low, wide]
  · by_cases start : bit < 8 * index
    · simp [UInt64.toBitVec_shiftLeft, bound, shift, here, start, -BitVec.getLsbD_eq_getElem]
    · have high : ¬ bit - 8 * index < 8 := by omega
      simp [UInt64.toBitVec_shiftLeft, bound, shift, here, start, -BitVec.getLsbD_eq_getElem,
        getLsbD_byteMask, high, BitVec.getLsbD_of_ge byte.toBitVec _ (Nat.le_of_not_lt high)]

/-! ### Byte by byte -/

/-- A replaced byte reads back, and the others stay. -/
theorem byteAt_withByteAt (word : Word) {index other : Nat} (within : index < 8)
    (otherWithin : other < 8) (byte : UInt8) :
    byteAt (withByteAt word index byte) other =
      if other = index then byte else byteAt word other := by
  refine UInt8.toBitVec_inj.mp (BitVec.eq_of_getLsbD_eq fun bit bound => ?_)
  rw [getLsbD_byteAt _ otherWithin bound, getLsbD_withByteAt _ within _ (by omega)]
  have quotient : (8 * other + bit) / 8 = other := by omega
  have remainder : (8 * other + bit) % 8 = bit := by omega
  rw [quotient, remainder]
  split
  · rfl
  · rw [getLsbD_byteAt _ otherWithin bound]

end NextFit
