import Attest.Double.Shortest
import Attest.Json.Record
import Attest.Text.Number

/-!
# Values of a configuration

A configuration holds the values of JSON, and a double may also be infinite or no
number.  A setting asks for a text or an integer, and a value of another kind is
converted where that makes sense: numbers and Booleans have a text, and a double, a
Boolean and some texts have an integer.  Absent values, lists and tables have
neither.
-/

namespace Attest.Config

/-- The text of a value. -/
def textOf? : Json → Option String
  | .string text => some text
  | .bool value => some (toString value)
  | .int i => some (toString i)
  | .float x => some (String.ofList x.plainText)
  | _ => none

/-- A double as an integer of 64 bits: rounded, a half away from zero; what is no
number counts as zero. -/
def intOfDouble (x : Double) : Int :=
  if x.isNaN then 0 else saturateInt64 x.round

/-- A text as an integer of 64 bits: a word for yes or no in either case, or an
integer. -/
def intOfText? (text : String) : Option Int :=
  let word := text.map Char.toLower
  if ["true", "on", "yes"].contains word then some 1
  else if ["false", "off", "no"].contains word then some 0
  else Text.int64? 10 text.toList

/-- The integer of 64 bits of a value. -/
def intOf? : Json → Option Int
  | .int i => if fitsInt64 i then some i else none
  | .float x => some (intOfDouble x)
  | .bool value => some (if value then 1 else 0)
  | .string text => intOfText? text
  | _ => none

/-- The fields of a record: those of a table by name, those of a list in order. -/
def membersOf? (fields : List String) : Json → Option (Table Json)
  | .object members => some members
  | .array items => some (fields.zip items)
  | _ => none

/-- The convention of configurations: a value of another type is converted. -/
def lenient : Json.Record.Convention := ⟨membersOf?, textOf?, intOf?⟩

end Attest.Config
