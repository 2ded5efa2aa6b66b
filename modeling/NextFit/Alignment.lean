/-
This file holds the alignment arithmetic. An alignment is a power of two, and it
carries the proof of that, so that rounding is defined for every alignment by a
mask. The functions at the end take any word for an alignment and fault unless it
is a power of two.
-/

import NextFit.Word.Checked

namespace NextFit

/-- A power of two is a word other than zero that shares no bit with its predecessor. -/
def isPowerOfTwo (value : Word) : Bool :=
  value != 0 && (value &&& (value - 1)) == 0

/-- A power of two to whose multiples addresses and sizes are rounded. -/
structure Alignment where
  /-- The power of two. -/
  value : Word
  /-- It is one. -/
  power : isPowerOfTwo value = true
  deriving DecidableEq

namespace Alignment

/-- The alignment of the given value, if the value is a power of two. -/
def ofWord? (value : Word) : Option Alignment :=
  if power : isPowerOfTwo value = true then some ⟨value, power⟩ else none

/-- The alignment of the given value, which must be a power of two. -/
def ofWord (value : Word) : Except Fault Alignment :=
  match ofWord? value with
  | some alignment => .ok alignment
  | none => .error (.notPowerOfTwo value)

/-- The alignment of headers. -/
def header : Alignment :=
  ⟨headerAlignment, by decide⟩

/-- The greatest multiple of the alignment that is not above the value. -/
def down (alignment : Alignment) (value : Word) : Word :=
  value &&& ~~~(alignment.value - 1)

/-- The least multiple of the alignment that is not below the value, if a word holds it. -/
def up? (alignment : Alignment) (value : Word) : Option Word :=
  (plus? value (alignment.value - 1)).map (· &&& ~~~(alignment.value - 1))

/-- The least multiple of the alignment that is not below the value, which must fit in a
word. -/
def up (alignment : Alignment) (value : Word) : Except Fault Word :=
  match alignment.up? value with
  | some multiple => .ok multiple
  | none => .error .alignUpOverflow

/-- Whether the value is a multiple of the alignment. -/
def aligned (alignment : Alignment) (value : Word) : Bool :=
  alignment.down value == value

/-- What has to be added to the value to reach a multiple of the alignment. -/
def padding (alignment : Alignment) (value : Word) : Except Fault Word := do
  minus (← alignment.up value) value

end Alignment

/-! ### Any word for an alignment -/

/-- `Alignment.up?` at a word, which must be a power of two. -/
def alignUp? (value alignment : Word) : Except Fault (Option Word) := do
  return (← Alignment.ofWord alignment).up? value

/-- `Alignment.up` at a word, which must be a power of two. -/
def alignUp (value alignment : Word) : Except Fault Word := do
  (← Alignment.ofWord alignment).up value

/-- `Alignment.down` at a word, which must be a power of two. -/
def alignDown (value alignment : Word) : Except Fault Word := do
  return (← Alignment.ofWord alignment).down value

/-- `Alignment.aligned` at a word, which must be a power of two. -/
def isAligned (value alignment : Word) : Except Fault Bool := do
  return (← Alignment.ofWord alignment).aligned value

/-- `Alignment.padding` at a word, which must be a power of two. -/
def padding (value alignment : Word) : Except Fault Word := do
  (← Alignment.ofWord alignment).padding value

/-! ### Rounding to any increment -/

/-- The least multiple of the increment that is not below the value, if a word holds it. The
increment need not be a power of two, but it must not be zero. -/
def roundUp? (value increment : Word) : Option Word :=
  if value = 0 then some 0 else times? increment ((value - 1) / increment + 1)

end NextFit
