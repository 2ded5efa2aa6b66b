/-
This file looks code points up in tables. A table lists the code points that have a
property as closed ranges.
-/

namespace NextFit

/-- Closed ranges of code points, each from its first to its last. -/
abbrev Ranges := List (Nat × Nat)

/-- Whether one of the ranges holds the code point of a character. -/
def Ranges.contains (ranges : Ranges) (character : Char) : Bool :=
  ranges.any fun range => range.1 ≤ character.toNat && character.toNat ≤ range.2

end NextFit
