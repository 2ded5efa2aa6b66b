/-
This file writes an address as it stands in messages: `0x` and the hexadecimal
digits in lower case, with no padding.
-/

import NextFit.Word

namespace NextFit

/-- The text of an address. -/
def Address.text (address : Address) : String :=
  "0x" ++ String.ofList (Nat.toDigits 16 address.toNat)

end NextFit
