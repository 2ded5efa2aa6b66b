/-
This file holds the arithmetic that does not wrap. Each operation comes in two
forms: one that has no answer when the result does not fit in a word, and one for
which that is a fault.
-/

import NextFit.Fault

namespace NextFit

/-! ### Without an answer -/

/-- The sum, if it fits in a word. -/
def plus? (left right : Word) : Option Word :=
  if left.toNat + right.toNat < UInt64.size then some (left + right) else none

/-- The product, if it fits in a word. -/
def times? (left right : Word) : Option Word :=
  if left.toNat * right.toNat < UInt64.size then some (left * right) else none

/-! ### With a fault -/

/-- The sum, which must fit in a word. -/
def plus (left right : Word) : Except Fault Word :=
  if left.toNat + right.toNat < UInt64.size then .ok (left + right) else .error .addOverflow

/-- The difference, which must not be negative. -/
def minus (left right : Word) : Except Fault Word :=
  if right ≤ left then .ok (left - right) else .error .subOverflow

/-- The product, which must fit in a word. -/
def times (left right : Word) : Except Fault Word :=
  if left.toNat * right.toNat < UInt64.size then .ok (left * right) else .error .mulOverflow

/-! ### Results that fit -/

theorem plus?_of_lt {left right : Word} (fits : left.toNat + right.toNat < UInt64.size) :
    plus? left right = some (left + right) :=
  if_pos fits

theorem plus?_of_le {left right : Word} (beyond : UInt64.size ≤ left.toNat + right.toNat) :
    plus? left right = none :=
  if_neg (Nat.not_lt.mpr beyond)

theorem plus_of_lt {left right : Word} (fits : left.toNat + right.toNat < UInt64.size) :
    plus left right = .ok (left + right) :=
  if_pos fits

theorem le_of_plus_error {left right : Word} {fault : Fault}
    (failed : plus left right = .error fault) : UInt64.size ≤ left.toNat + right.toNat := by
  unfold plus at failed
  split at failed
  · cases failed
  · next beyond => exact Nat.not_lt.mp beyond

theorem minus_of_le {left right : Word} (le : right ≤ left) :
    minus left right = .ok (left - right) :=
  if_pos le

theorem times?_of_lt {left right : Word} (fits : left.toNat * right.toNat < UInt64.size) :
    times? left right = some (left * right) :=
  if_pos fits

theorem times?_of_le {left right : Word} (beyond : UInt64.size ≤ left.toNat * right.toNat) :
    times? left right = none :=
  if_neg (Nat.not_lt.mpr beyond)

theorem times_of_lt {left right : Word} (fits : left.toNat * right.toNat < UInt64.size) :
    times left right = .ok (left * right) :=
  if_pos fits

/-! ### Values -/

theorem toNat_pos_of_ne_zero {word : Word} (nonzero : word ≠ 0) : 0 < word.toNat :=
  Nat.pos_of_ne_zero fun zero => nonzero (UInt64.toNat_inj.mp zero)

theorem toNat_of_plus? {left right sum : Word} (fits : plus? left right = some sum) :
    sum.toNat = left.toNat + right.toNat := by
  unfold plus? at fits
  split at fits
  · next bound =>
    cases fits
    exact (UInt64.toNat_add _ _).trans (Nat.mod_eq_of_lt bound)
  · cases fits

theorem toNat_of_times? {left right product : Word} (fits : times? left right = some product) :
    product.toNat = left.toNat * right.toNat := by
  unfold times? at fits
  split at fits
  · next bound =>
    cases fits
    exact (UInt64.toNat_mul _ _).trans (Nat.mod_eq_of_lt bound)
  · cases fits

theorem toNat_of_plus {left right sum : Word} (fits : plus left right = .ok sum) :
    sum.toNat = left.toNat + right.toNat := by
  unfold plus at fits
  split at fits
  · next bound =>
    cases fits
    exact (UInt64.toNat_add _ _).trans (Nat.mod_eq_of_lt bound)
  · cases fits

theorem toNat_of_minus {left right difference : Word}
    (fits : minus left right = .ok difference) :
    difference.toNat + right.toNat = left.toNat := by
  unfold minus at fits
  split at fits
  · next bound =>
    cases fits
    rw [UInt64.toNat_sub_of_le _ _ bound]
    exact Nat.sub_add_cancel (UInt64.le_iff_toNat_le.mp bound)
  · cases fits

theorem toNat_of_times {left right product : Word} (fits : times left right = .ok product) :
    product.toNat = left.toNat * right.toNat := by
  unfold times at fits
  split at fits
  · next bound =>
    cases fits
    exact (UInt64.toNat_mul _ _).trans (Nat.mod_eq_of_lt bound)
  · cases fits

end NextFit
