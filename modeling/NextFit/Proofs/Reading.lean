/-
This file reads the records of a log back. Four forms of record tell what has become of the
memory: a block was handed out, is freed or was cut down, or a region came from the grower. A
reader who knows nothing but the words of these forms finds in each of them the very event that
was recorded, and takes no other record for one of them, whatever the errors of the grower are
called.
-/

import Mathlib.Data.List.Basic
import NextFit.Event

namespace NextFit

/-! ### Readers -/

/-- Reads something off the front of a text and leaves the rest. -/
abbrev Reader := StateT (List Char) Option

namespace Reader

/-- Reads exactly the given words. -/
def words (written : String) : Reader Unit := fun text =>
  (written.toList.isPrefixOf? text).map ((), ·)

/-- The value of a digit. -/
def digit? (base : Nat) (character : Char) : Option Nat :=
  (List.range base).find? fun digit => digit.digitChar == character

/-- Reads on a number, of which a part has been read, for as long as there are digits. -/
def digits (base number : Nat) : List Char → Nat × List Char
  | [] => (number, [])
  | character :: rest =>
    match digit? base character with
    | some digit => digits base (base * number + digit) rest
    | none => (number, character :: rest)

/-- Reads a word, of which there is one digit at least. -/
def word (base : Nat) : Reader Word := fun text =>
  let (number, rest) := digits base 0 text
  if rest.length < text.length ∧ number < UInt64.size then some (.ofNat number, rest) else none

/-- Reads an address. -/
def address : Reader Address := do
  words "0x"
  word 16

/-! ### The forms of a record -/

/-- Reads how a block is aligned, if that is told. -/
def toldAlignment : Reader (Option Word) :=
  (do words ", aligned to "; return some (← word 10)) <|> pure none

/-- Reads that a block was handed out. -/
def allocated : Reader (Event Empty) := do
  words "Allocated "
  let size ← word 10
  words " bytes ("
  let units ← word 10
  words " units) at "
  let payload ← address
  let alignment ← toldAlignment
  return .allocated size units payload alignment

/-- Reads an address and a number of units, with the given words before and between them. -/
def unitsAt (before between : String) : Reader (Address × Word) := do
  words before
  let place ← address
  words between
  let units ← word 10
  words " units"
  return (place, units)

/-- Reads that a block is freed. -/
def freeing : Reader (Event Empty) := do
  let (payload, units) ← unitsAt "Freeing " ": "
  return .freeing payload units

/-- Reads that a block was cut down. -/
def shrank : Reader (Event Empty) := do
  let (header, units) ← unitsAt "Shrank " " to "
  return .shrank header units

/-- Reads that the grower handed over a region. -/
def grew : Reader (Event Empty) := do
  words "Grew heap by "
  let got ← word 10
  words " units at "
  let start ← address
  words " ("
  let requested ← word 10
  words " requested)"
  return .grew got start requested

/-- Reads a record of one of these forms. -/
def record : Reader (Event Empty) :=
  allocated <|> freeing <|> shrank <|> grew

end Reader

/-- Reads a text that is such a record from its first character to its last. -/
def Event.read? (text : String) : Option (Event Empty) :=
  match Reader.record text.toList with
  | some (event, []) => some event
  | _ => none

/-- What a reader is told by the records of a log, the first one first. -/
def told (records : List String) : List (Event Empty) :=
  records.filterMap Event.read?

/-- What an event tells of the memory. The errors of the grower have no part in it. -/
def Event.told? {E : Type} : Event E → Option (Event Empty)
  | allocated size units payload alignment => some (.allocated size units payload alignment)
  | freeing payload units => some (.freeing payload units)
  | shrank header units => some (.shrank header units)
  | grew got start requested => some (.grew got start requested)
  | growthFailed .. | refusedEmpty | tooLarge .. | tooLargeAligned .. => none

namespace Reader

/-! ### Numbers -/

/-- The sixteen digits are told apart. -/
theorem digit?_digitChar {base digit : Nat} (small : base ≤ 16) (less : digit < base) :
    digit? base digit.digitChar = some digit := by
  have differ : ∀ one < 16, ∀ other < one, other.digitChar ≠ one.digitChar := by decide
  refine List.find?_range_eq_some.mpr ⟨beq_self_eq_true _, List.mem_range.mpr less, ?_⟩
  intro other before
  rw [Bool.not_eq_true', beq_eq_false_iff_ne]
  exact differ digit (by omega) other before

/-- No digit follows. -/
def Stops (base : Nat) (rest : List Char) : Prop :=
  rest.head?.bind (digit? base) = none

theorem digits_of_stops {base number : Nat} {rest : List Char} (stops : Stops base rest) :
    digits base number rest = (number, rest) := by
  cases rest with
  | nil => rfl
  | cons character rest =>
    have none : digit? base character = none := stops
    rw [digits, none]

theorem digits_digitChar {base digit number : Nat} (small : base ≤ 16) (less : digit < base)
    (rest : List Char) : digits base number (digit.digitChar :: rest) =
      digits base (base * number + digit) rest := by
  rw [digits, digit?_digitChar small less]

section Bases

variable {base : Nat} (several : 1 < base) (small : base ≤ 16)

include several small

/-- The digits of a number are read on as if the number had been read. The last one is the
remainder, and the others are the quotient's. -/
theorem digits_toDigits (number : Nat) (rest : List Char) :
    digits base 0 (Nat.toDigits base number ++ rest) = digits base number rest := by
  induction number using Nat.strongRecOn generalizing rest with
  | ind number inductionHypothesis =>
    rw [Nat.toDigits_eq_if several]
    split
    · next less =>
      rw [List.singleton_append, digits_digitChar small less, Nat.mul_zero, Nat.zero_add]
    · next more =>
      have less : number / base < number := Nat.div_lt_self (by omega) several
      have last : number % base < base := Nat.mod_lt number (by omega)
      rw [List.append_assoc, inductionHypothesis _ less, List.singleton_append,
        digits_digitChar small last, Nat.div_add_mod]

theorem word_toDigits (value : Word) {rest : List Char} (stops : Stops base rest) :
    word base (Nat.toDigits base value.toNat ++ rest) = some (value, rest) := by
  have some : 0 < (Nat.toDigits base value.toNat).length :=
    List.length_pos_iff.mpr Nat.toDigits_ne_nil
  have fewer : rest.length < (Nat.toDigits base value.toNat ++ rest).length := by
    rw [List.length_append]
    omega
  rw [word, digits_toDigits several small, digits_of_stops stops]
  dsimp only
  rw [if_pos ⟨fewer, value.toNat_lt_size⟩, UInt64.ofNat_toNat]

end Bases

/-! ### Parts of a record -/

theorem bind_of_some {α β : Type} {read : Reader α} {next : α → Reader β}
    {text rest : List Char} {value : α} (done : read text = some (value, rest)) :
    (read >>= next) text = next value rest := by
  show Option.bind (read text) _ = _
  rw [done]
  rfl

theorem orElse_of_some {α : Type} {first second : Reader α} {text rest : List Char} {value : α}
    (done : first text = some (value, rest)) : (first <|> second) text = some (value, rest) := by
  show (first text <|> second text) = _
  rw [done]
  rfl

theorem orElse_of_none {α : Type} {first second : Reader α} {text : List Char}
    (other : first text = none) : (first <|> second) text = second text := by
  show (first text <|> second text) = _
  rw [other]
  rfl

section Parts

variable {α : Type} {rest : List Char}

/-- Words that were written are read, and the reader goes on behind them. -/
theorem words_bind (written : String) (next : Unit → Reader α) :
    (words written >>= next) (written.toList ++ rest) = next () rest := by
  have left : written.toList.isPrefixOf? (written.toList ++ rest) = some rest :=
    List.isPrefixOf?_eq_some_iff_append_eq.mpr rfl
  refine bind_of_some ?_
  rw [words, left]
  rfl

theorem toList_toString (value : Word) : (toString value).toList = Nat.toDigits 10 value.toNat := by
  show (Nat.repr value.toNat).toList = _
  rw [Nat.repr_eq_ofList_toDigits, String.toList_ofList]

theorem word_bind (value : Word) (next : Word → Reader α) (stops : Stops 10 rest) :
    (word 10 >>= next) ((toString value).toList ++ rest) = next value rest := by
  rw [toList_toString]
  exact bind_of_some (word_toDigits (by decide) (by decide) value stops)

theorem address_bind (value : Address) (next : Address → Reader α) (stops : Stops 16 rest) :
    (address >>= next) ((Address.text value).toList ++ rest) = next value rest := by
  refine bind_of_some ?_
  rw [Address.text, String.toList_append, List.append_assoc, address, words_bind "0x",
    String.toList_ofList]
  exact word_toDigits (by decide) (by decide) value stops

end Parts

/-! ### Whole records -/

theorem read?_of_some {text : String} {event : Event Empty}
    (reads : record (text.toList ++ []) = some (event, [])) : Event.read? text = some event := by
  rw [List.append_nil] at reads
  rw [Event.read?, reads]

/-- What begins with other words is no such record. -/
theorem read?_of_other {written : String} (other : ∀ rest, record (written.toList ++ rest) = none)
    (text : String) : Event.read? (written ++ text) = none := by
  rw [Event.read?, String.toList_append, other]

theorem toldAlignment_append (alignment : Word) :
    toldAlignment (", aligned to ".toList ++ ((toString alignment).toList ++ [])) =
      some (some alignment, []) := by
  refine orElse_of_some ?_
  rw [words_bind, word_bind _ _ ?_]
  all_goals rfl

/-- The payload is the last number in the record, or an alignment follows. -/
theorem allocated_append (size units : Word) (payload : Address) {alignment : Option Word}
    {rest : List Char} (reads : toldAlignment rest = some (alignment, []))
    (stops : Stops 16 rest) :
    allocated ("Allocated ".toList ++ ((toString size).toList ++ (" bytes (".toList ++
      ((toString units).toList ++ (" units) at ".toList ++
        ((Address.text payload).toList ++ rest)))))) =
          some (.allocated size units payload alignment, []) := by
  rw [allocated, words_bind, word_bind _ _ ?_, words_bind, word_bind _ _ ?_, words_bind,
    address_bind _ _ stops, bind_of_some reads]
  all_goals rfl

theorem unitsAt_append (before between : String) (place : Address) (units : Word)
    (stops : ∀ rest, Stops 16 (between.toList ++ rest)) :
    unitsAt before between (before.toList ++ ((Address.text place).toList ++ (between.toList ++
      ((toString units).toList ++ (" units".toList ++ []))))) = some ((place, units), []) := by
  rw [unitsAt, words_bind, address_bind _ _ (stops _), words_bind, word_bind _ _ ?_, words_bind]
  all_goals rfl

section Forms

variable {E : Type} (errorText : E → String)

theorem read?_allocated (size units : Word) (payload : Address) (alignment : Option Word) :
    Event.read? (Event.text errorText (.allocated size units payload alignment)) =
      some (.allocated size units payload alignment) := by
  cases alignment with
  | none =>
    show Event.read? ("Allocated " ++ toString size ++ " bytes (" ++ toString units ++
      " units) at " ++ Address.text payload ++ "") = _
    refine read?_of_some (orElse_of_some ?_)
    simp only [String.toList_append, List.append_assoc]
    exact allocated_append size units payload rfl rfl
  | some alignment =>
    show Event.read? ("Allocated " ++ toString size ++ " bytes (" ++ toString units ++
      " units) at " ++ Address.text payload ++ (", aligned to " ++ toString alignment)) = _
    refine read?_of_some (orElse_of_some ?_)
    simp only [String.toList_append, List.append_assoc]
    exact allocated_append size units payload (toldAlignment_append alignment) rfl

theorem read?_freeing (payload : Address) (units : Word) :
    Event.read? (Event.text errorText (.freeing payload units)) =
      some (.freeing payload units) := by
  show Event.read? ("Freeing " ++ Address.text payload ++ ": " ++ toString units ++ " units") = _
  refine read?_of_some ?_
  simp only [String.toList_append, List.append_assoc]
  refine (orElse_of_none rfl).trans (orElse_of_some ?_)
  rw [freeing, bind_of_some (unitsAt_append "Freeing " ": " payload units fun _ => rfl)]
  rfl

theorem read?_shrank (header : Address) (units : Word) :
    Event.read? (Event.text errorText (.shrank header units)) = some (.shrank header units) := by
  show Event.read? ("Shrank " ++ Address.text header ++ " to " ++ toString units ++ " units") = _
  refine read?_of_some ?_
  simp only [String.toList_append, List.append_assoc]
  refine (orElse_of_none rfl).trans ((orElse_of_none rfl).trans (orElse_of_some ?_))
  rw [shrank, bind_of_some (unitsAt_append "Shrank " " to " header units fun _ => rfl)]
  rfl

theorem read?_grew (got : Word) (start : Address) (requested : Word) :
    Event.read? (Event.text errorText (.grew got start requested)) =
      some (.grew got start requested) := by
  show Event.read? ("Grew heap by " ++ toString got ++ " units at " ++ Address.text start ++
    " (" ++ toString requested ++ " requested)") = _
  refine read?_of_some ?_
  simp only [String.toList_append, List.append_assoc]
  refine (orElse_of_none rfl).trans ((orElse_of_none rfl).trans ((orElse_of_none rfl).trans ?_))
  rw [grew, words_bind, word_bind _ _ ?_, words_bind, address_bind _ _ ?_, words_bind,
    word_bind _ _ ?_, words_bind]
  all_goals rfl

end Forms

end Reader

/-- A record tells a reader just what the event tells of the memory. -/
theorem Event.read?_text {E : Type} (errorText : E → String) (event : Event E) :
    read? (event.text errorText) = event.told? := by
  cases event with
  | allocated size units payload alignment => exact Reader.read?_allocated _ _ _ _ _
  | freeing payload units => exact Reader.read?_freeing _ _ _
  | shrank header units => exact Reader.read?_shrank _ _ _
  | grew got start requested => exact Reader.read?_grew _ _ _ _
  -- The other records begin with words of their own.
  | growthFailed requested error =>
    show read? ("Failed to grow heap by " ++ toString requested ++ " units: " ++
      errorText error) = none
    rw [String.append_assoc, String.append_assoc]
    exact Reader.read?_of_other (fun _ => rfl) _
  | refusedEmpty =>
    show read? ("Refusing to allocate 0 bytes" ++ "") = none
    exact Reader.read?_of_other (fun _ => rfl) _
  | tooLarge size =>
    show read? ("Allocation of " ++ toString size ++ " bytes is too large") = none
    rw [String.append_assoc]
    exact Reader.read?_of_other (fun _ => rfl) _
  | tooLargeAligned size alignment =>
    show read? ("Allocation of " ++ toString size ++ " bytes aligned to " ++ toString alignment ++
      " is too large") = none
    rw [String.append_assoc, String.append_assoc, String.append_assoc]
    exact Reader.read?_of_other (fun _ => rfl) _

/-- The alignment is told last. -/
example : Event.read? "Allocated 40 bytes (4 units) at 0x10c0, aligned to 64" =
    some (.allocated 40 4 0x10c0 (some 64)) := by decide +kernel

/-- So a reader of the records is told what has become of the memory, and nothing else. -/
theorem told_map_text {E : Type} (errorText : E → String) (log : List (Event E)) :
    told (log.map (Event.text errorText)) = log.filterMap Event.told? := by
  rw [told, List.filterMap_map]
  exact List.filterMap_congr fun event _ => event.read?_text errorText

end NextFit
