import Attest.Json.Reader
import Attest.Token.Algorithm

/-!
# Token headers

A header names the algorithm and may have a fixed set of further members; what
else it has are extra members with texts.  Reading is strict: a known member has
its type and comes once, every other member is a string.  Writing keeps a fixed
order and leaves absent members out.
-/

namespace Attest.Token

/-- The header of a token. -/
structure Header where
  algorithm : Algorithm
  /-- The type of the token. -/
  typ : Option String := none
  /-- The type of the content. -/
  cty : Option String := none
  /-- The address of a key set. -/
  jku : Option String := none
  /-- A key. -/
  jwk : Option Json := none
  /-- The identifier of the key. -/
  kid : Option String := none
  /-- The address of a certificate. -/
  x5u : Option String := none
  /-- A chain of certificates. -/
  x5c : Option (List String) := none
  /-- The digest of a certificate. -/
  x5t : Option String := none
  /-- Another digest of a certificate. -/
  x5tS256 : Option String := none
  /-- The members that a reader has to know. -/
  crit : Option (List String) := none
  /-- The encryption. -/
  enc : Option String := none
  /-- The compression. -/
  zip : Option String := none
  /-- An address. -/
  url : Option String := none
  /-- A number used once. -/
  nonce : Option String := none
  /-- Further members. -/
  extras : Table String := []
  deriving Repr

namespace Header

/-- The names of the members that a header knows. -/
def knownNames : List String :=
  ["typ", "alg", "cty", "jku", "jwk", "kid", "x5u", "x5c", "x5t", "x5t#S256", "crit", "enc", "zip",
    "url", "nonce"]

/-- A member with a text, if there is one. -/
def textMember (name : String) (value : Option String) : List (String × Json) :=
  (value.map fun text => (name, Json.string text)).toList

/-- A member with texts, if there is one. -/
def listMember (name : String) (value : Option (List String)) : List (String × Json) :=
  (value.map fun texts => (name, Json.array (texts.map Json.string))).toList

/-- The members of a header in their order. -/
def members (header : Header) : List (String × Json) :=
  textMember "typ" header.typ ++ [("alg", .string header.algorithm.name)] ++
    textMember "cty" header.cty ++ textMember "jku" header.jku ++
    (header.jwk.map fun key => ("jwk", key)).toList ++ textMember "kid" header.kid ++
    textMember "x5u" header.x5u ++ listMember "x5c" header.x5c ++ textMember "x5t" header.x5t ++
    textMember "x5t#S256" header.x5tS256 ++ listMember "crit" header.crit ++
    textMember "enc" header.enc ++ textMember "zip" header.zip ++ textMember "url" header.url ++
    textMember "nonce" header.nonce ++
    header.extras.map fun (name, text) => (name, .string text)

/-! ## Reading -/

/-- An optional text: a string, or nothing for `null` and for no member. -/
def optionalText : Option Json → Option (Option String)
  | none | some .null => some none
  | some (.string text) => some (some text)
  | some _ => none

/-- An optional list of texts. -/
def optionalTexts : Option Json → Option (Option (List String))
  | none | some .null => some none
  | some value => value.strings?.map some

/-- An algorithm: its name, or an object with its name as the only member. -/
def algorithmOf? : Json → Option Algorithm
  | .string name => Algorithm.ofName? name
  | .object [(name, .null)] => Algorithm.ofName? name
  | _ => none

/-- The members of a key that are common to all types of keys. -/
def keyCommonNames : List String :=
  ["use", "key_ops", "alg", "kid", "x5u", "x5c", "x5t", "x5t#S256"]

/-- Whether the members of a key that are common to all types have their types. -/
def keyCommonFine (members : List (String × Json)) : Bool :=
  let text (name : String) := (optionalText (Table.find? name members)).isSome
  let texts (name : String) := (optionalTexts (Table.find? name members)).isSome
  text "use" && texts "key_ops" && text "alg" && text "kid" && text "x5u" && texts "x5c" &&
    text "x5t" && text "x5t#S256"

/-- The curves of a curve key. -/
def keyCurves : List String := ["P-256", "P-384", "P-521", "Ed25519"]

/-- Whether the members of a key are those of one of the types of keys. -/
def keyTypeFine (members : List (String × Json)) : Bool :=
  let text (name : String) := (Table.find? name members).bind Json.string?
  let curve := match text "crv" with
    | some name => keyCurves.contains name
    | none => false
  match text "kty" with
  | some "EC" => curve && (text "x").isSome && (text "y").isSome
  | some "RSA" => (text "n").isSome && (text "e").isSome
  | some "oct" => (text "k").isSome
  | some "OKP" => curve && (text "x").isSome
  | _ => false

/-- The members that a type of keys knows. -/
def keyTypeNames (members : List (String × Json)) : List String :=
  match (Table.find? "kty" members).bind Json.string? with
  | some "EC" => ["kty", "crv", "x", "y"]
  | some "RSA" => ["kty", "n", "e"]
  | some "oct" => ["kty", "k"]
  | some "OKP" => ["kty", "crv", "x"]
  | _ => []

/-- An optional key. -/
def optionalKey : Option Json → Option (Option Json)
  | none | some .null => some none
  | some (.object members) =>
      if Table.onceEach (keyCommonNames ++ keyTypeNames members) members && keyCommonFine members &&
          keyTypeFine members then
        some (some (.object members))
      else none
  | some _ => none

/-- Read the members of a header. -/
def ofMembers? (members : List (String × Json)) : Option Header := do
  let text (name : String) := optionalText (Table.find? name members)
  let texts (name : String) := optionalTexts (Table.find? name members)
  if !Table.onceEach knownNames members then none
  let extras ← (members.filter fun member => !knownNames.contains member.1).mapM
    fun (name, value) => value.string?.map fun text => (name, text)
  return {
    algorithm := ← algorithmOf? (← Table.find? "alg" members)
    typ := ← text "typ"
    cty := ← text "cty"
    jku := ← text "jku"
    jwk := ← optionalKey (Table.find? "jwk" members)
    kid := ← text "kid"
    x5u := ← text "x5u"
    x5c := ← texts "x5c"
    x5t := ← text "x5t"
    x5tS256 := ← text "x5t#S256"
    crit := ← texts "crit"
    enc := ← text "enc"
    zip := ← text "zip"
    url := ← text "url"
    nonce := ← text "nonce"
    extras := Table.ofEntries extras }

/-- Read a document as a header. -/
def ofJson? : Json → Option Header
  | .object members => ofMembers? members
  | _ => none

end Header

end Attest.Token
