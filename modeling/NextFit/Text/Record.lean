/-
This file writes records: the name of the record and, in braces, its fields in order.
-/

namespace NextFit

/-- The text of one field. -/
def fieldText (field : String × String) : String :=
  field.1 ++ ": " ++ field.2

/-- The text of a record with the given name and fields. -/
def recordText (name : String) (fields : List (String × String)) : String :=
  name ++ " \x7b " ++ ", ".intercalate (fields.map fieldText) ++ " \x7d"

end NextFit
