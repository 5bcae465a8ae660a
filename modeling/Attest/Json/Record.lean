import Attest.Json

/-!
# Records in JSON

A record is written as an object with its fields as members, or as an array with
its fields in order.  Members that the record does not know are passed over, in a text
unread, but none that it knows may come twice.  An array may end before the last field; the
fields that it leaves out are absent.  A field is required, has a default when it
is absent, or may be absent or `null`.
-/

namespace Attest.Json.Record

/-- The members of a record with the given fields. -/
def members? (fields : List String) : Json → Option (List (String × Json))
  | .object members => if Table.onceEach fields members then some members else none
  | .array items => if items.length ≤ fields.length then some (fields.zip items) else none
  | _ => none

variable {α : Type}

/-- The value of a required field. -/
def required (field : String) (read : Json → Option α) (members : List (String × Json)) :
    Option α :=
  (Table.find? field members).bind read

/-- The value of a field with a default. -/
def withDefault (default : α) (field : String) (read : Json → Option α)
    (members : List (String × Json)) : Option α :=
  match Table.find? field members with
  | some value => read value
  | none => some default

/-- The value of a field that may be absent or `null`. -/
def optional (field : String) (read : Json → Option α) (members : List (String × Json)) :
    Option (Option α) :=
  match Table.find? field members with
  | none | some .null => some none
  | some value => (read value).map some

/-- A list of values. -/
def listOf (read : Json → Option α) : Json → Option (List α)
  | .array items => items.mapM read
  | _ => none

/-- An integer of 64 bits with a sign. -/
def int64? : Json → Option Int
  | .int i => if fitsInt64 i then some i else none
  | _ => none

/-- An object, its members settled and ordered by name. -/
def sortedObject? : Json → Option (Table Json)
  | .object members => some (Table.sorted (settleMembers members))
  | _ => none

/-- How a kind of document writes records, texts and integers. -/
structure Convention where
  /-- The members of a record with the given fields. -/
  members? : List String → Json → Option (Table Json)
  /-- A text. -/
  text? : Json → Option String
  /-- An integer of 64 bits with a sign. -/
  int? : Json → Option Int

/-- The convention of JSON: no value stands for one of another type. -/
def strict : Convention := ⟨members?, string?, int64?⟩

/-- The member for an optional field, left out when it is absent. -/
def present (field : String) (write : α → Json) (value : Option α) : List (String × Json) :=
  (value.map fun value => (field, write value)).toList

end Attest.Json.Record
