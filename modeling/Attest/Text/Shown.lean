import Attest.Text.Quoted

/-!
# Shown values

How a structured value is shown: its name, then the shown fields in braces.  A
value with fields that are not shown ends with two dots.
-/

namespace Attest.Text

/-- The fields of a value, each after its name. -/
def shownFields (fields : List (String × String)) : List String :=
  fields.map fun (name, shown) => name ++ ": " ++ shown

/-- A value all of whose fields are shown. -/
def shownRecord (name : String) (fields : List (String × String)) : String :=
  name ++ " \x7b " ++ String.intercalate ", " (shownFields fields) ++ " \x7d"

/-- A value with further fields that are not shown. -/
def shownPartly (name : String) (fields : List (String × String)) : String :=
  name ++ " \x7b " ++ String.intercalate ", " (shownFields fields ++ [".."]) ++ " \x7d"

/-- A value that wraps others. -/
def shownWrapper (name inner : String) : String :=
  name ++ "(" ++ inner ++ ")"

/-- A list of shown values. -/
def shownList (items : List String) : String :=
  "[" ++ String.intercalate ", " items ++ "]"

/-- A table of shown values. -/
def shownTable (entries : List (String × String)) : String :=
  "\x7b" ++ String.intercalate ", " (entries.map fun (key, shown) => quoted key ++ ": " ++ shown) ++
    "\x7d"

/-- A value that may be absent. -/
def shownOption : Option String → String
  | some shown => shownWrapper "Some" shown
  | none => "None"

/-- What is shown in place of a secret. -/
def redacted : String := "[REDACTED]"

end Attest.Text
