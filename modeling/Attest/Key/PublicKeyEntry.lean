import Attest.Json.Outline
import Attest.Json.Record
import Attest.Text.Shown

/-!
# Entries of public keys

An entry names a public key and says where its text is: in the entry itself or in a
file.
-/

namespace Attest.Key

/-- A public key to be put at hand: its text, or the path of a file with it. -/
structure PublicKeyEntry where
  id : String
  value : Option String := none
  path : Option String := none
  deriving DecidableEq, Repr, Inhabited

namespace PublicKeyEntry

/-- The members of an entry in JSON. -/
def fields : List String :=
  ["id", "value", "path"]

/-- Read an entry under a convention. -/
def read? (convention : Json.Record.Convention) (document : Json) : Option PublicKeyEntry := do
  let members ← convention.members? fields document
  return {
    id := ← Json.Record.required "id" convention.text? members
    value := ← Json.Record.optional "value" convention.text? members
    path := ← Json.Record.optional "path" convention.text? members }

/-- Read an entry. -/
def ofJson? (document : Json) : Option PublicKeyEntry :=
  read? Json.Record.strict document

/-- What is wanted of the text of an entry. -/
def outline : Json.Outline := .ofFields fields

/-- Read an entry from a text. -/
def ofText? (text : String) : Option PublicKeyEntry :=
  (Json.readOutlined outline text).bind ofJson?

/-- Write an entry. -/
def toJson (entry : PublicKeyEntry) : Json :=
  .object ([("id", .string entry.id)] ++ Json.Record.present "value" Json.string entry.value ++
    Json.Record.present "path" Json.string entry.path)

/-- How an entry is shown. -/
def shown (entry : PublicKeyEntry) : String :=
  Text.shownRecord "PublicKeyEntry"
    [("id", Text.quoted entry.id), ("value", Text.shownOption (entry.value.map Text.quoted)),
      ("path", Text.shownOption (entry.path.map Text.quoted))]

end PublicKeyEntry

end Attest.Key
