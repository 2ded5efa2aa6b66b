/-
This file writes a text in quotation marks. Marks and backslashes are escaped, and so
are the characters that would not show, or would show on the character before them: the
common ones by a letter and the others by their code in braces.
-/

import NextFit.Text.Extending
import NextFit.Text.Ignorable
import NextFit.Text.Invisible

namespace NextFit

/-- Whether a character shows by itself. -/
def isShown (character : Char) : Bool :=
  !isAttached character && !isInvisible character && !isIgnorable character

/-- A character as it stands between quotation marks. -/
def escaped (character : Char) : String :=
  match character with
  | '"' => "\\\""
  | '\\' => "\\\\"
  | '\n' => "\\n"
  | '\r' => "\\r"
  | '\t' => "\\t"
  | '\x00' => "\\0"
  | other =>
    if isShown other then other.toString
    else "\\u\x7b" ++ String.ofList (Nat.toDigits 16 other.toNat) ++ "\x7d"

/-- A text in quotation marks. -/
def quoted (text : String) : String :=
  "\"" ++ String.join (text.toList.map escaped) ++ "\""

end NextFit
