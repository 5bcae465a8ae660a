import Attest.Json.Outline
import Attest.Json.Record
import Attest.Json.Writer
import Attest.Text.Shown

/-!
# Tokens with properties

A token as callers exchange it: its text, and properties that travel beside it.
-/

namespace Attest.Token

/-- A token and the properties that came with it. -/
structure Representation where
  token : String
  additional : Table Json := []
  deriving Repr, Inhabited

/-- The members of a token with properties in JSON. -/
def Representation.fields : List String :=
  ["token", "additional"]

/-- Read a token with properties. -/
def Representation.ofJson? (document : Json) : Option Representation := do
  let members ← Json.Record.members? fields document
  return {
    token := ← Json.Record.required "token" Json.string? members
    additional := ← Json.Record.withDefault [] "additional" Json.Record.sortedObject? members }

/-- Read a token with properties from a text. -/
def Representation.ofText? (text : String) : Option Representation :=
  (Json.readOutlined (.ofFields fields) text).bind ofJson?

/-- Write a token with properties; no properties are left out. -/
def Representation.toJson (representation : Representation) : Json :=
  .object (("token", .string representation.token) ::
    if representation.additional.isEmpty then []
    else [("additional", .object representation.additional)])

mutual

/-- How a JSON value is shown. -/
def shownJson : Json → String
  | .null => "Null"
  | .bool value => Text.shownWrapper "Bool" (toString value)
  | .int i => Text.shownWrapper "Number" (Json.write (.int i))
  | .float x => Text.shownWrapper "Number" (Json.write (.float x))
  | .string text => Text.shownWrapper "String" (Text.quoted text)
  | .array items => "Array " ++ Text.shownList (shownItems items)
  | .object members => "Object " ++ Text.shownTable (shownMembers members)

/-- How the items of an array are shown. -/
def shownItems : List Json → List String
  | [] => []
  | item :: rest => shownJson item :: shownItems rest

/-- How the members of an object are shown. -/
def shownMembers : List (String × Json) → List (String × String)
  | [] => []
  | (name, value) :: rest => (name, shownJson value) :: shownMembers rest

end

/-- How a token is shown: its text stays hidden. -/
def Representation.shown (representation : Representation) : String :=
  Text.shownRecord "TokenRepresentation"
    [("token", Text.quoted Text.redacted),
      ("additional", Text.shownTable (shownMembers representation.additional))]

end Attest.Token
