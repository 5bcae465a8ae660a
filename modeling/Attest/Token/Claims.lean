import Attest.Json.Outline
import Attest.Json.Record

/-!
# Verified claims

The claims of a verified token, ordered by name.  A claim whose value is `null`
counts as absent and is left out when claims are made from the members of an
object.  A number is read as an integer of 64 bits: fractions are cut off and
numbers beyond the range become its ends.
-/

namespace Attest.Token

/-- The claims of a token. -/
structure Claims where
  /-- The claims in the order of their names. -/
  entries : Table Json
  deriving Repr, Inhabited

namespace Claims

/-- The claims that the given members make, without those that are `null`. -/
def ofMembers (members : List (String × Json)) : Claims :=
  ⟨Table.sorted (members.filter fun member => !member.2.isNull)⟩

/-- The value of a claim. -/
def find? (claims : Claims) (name : String) : Option Json :=
  Table.find? name claims.entries

/-- The text of a claim that is a string. -/
def string? (claims : Claims) (name : String) : Option String :=
  (claims.find? name).bind Json.string?

/-- A JSON number as an integer of 64 bits: an integer that is one counts as it is, and any other
number as the double nearest to it. -/
def numeric? : Json → Option Int
  | .int i => some (if fitsInt64 i then i else saturateInt64 (Double.ofInt i).truncate)
  | .float x => some (saturateInt64 x.truncate)
  | _ => none

/-- The value of a claim that is a number. -/
def number? (claims : Claims) (name : String) : Option Int :=
  (claims.find? name).bind numeric?

/-- Whether there is a claim of the given name. -/
def has (claims : Claims) (name : String) : Bool :=
  Table.has name claims.entries

/-- The number of claims. -/
def size (claims : Claims) : Nat :=
  claims.entries.length

/-- The members of claims in JSON. -/
def fields : List String :=
  ["claims"]

/-- Read claims from a document with the claims as its only field.  Nothing is left
out here, not even a claim that is `null`. -/
def ofJson? (document : Json) : Option Claims := do
  let members ← Json.Record.members? fields document
  return ⟨← Json.Record.required "claims" Json.Record.sortedObject? members⟩

/-- What a text says as a document with claims; members other than the claims are skipped. -/
def document? (text : String) : Option Json :=
  Json.readOutlined (.ofFields fields) text

/-- Read claims from a text. -/
def ofText? (text : String) : Option Claims :=
  (document? text).bind ofJson?

/-- The claims as an object. -/
def toJson (claims : Claims) : Json :=
  .object claims.entries

end Claims

end Attest.Token
