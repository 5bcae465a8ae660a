import Attest.Base64
import Attest.Json.Reader
import Attest.Json.Writer
import Attest.Key.TextForm
import Attest.Text.Blank

/-!
# JSON web keys

Keys as JSON objects with a member `kty`.  Numbers are base64url without padding.
Curve keys have exactly the members of their kind, each once, with coordinates of
full width; RSA and symmetric keys may have further members.  An RSA key is
private when it has the private exponent and both factors.
-/

namespace Attest.Key.WebKey

/-- The object of a text that starts with a brace, after blanks, and has a member
`kty`; repeated members are kept. -/
def object? (text : String) : Option (List (String × Json)) :=
  match Text.trim text.toList with
  | '{' :: rest =>
      match Json.readChars ('{' :: rest) with
      | some (.object members) => if Table.has "kty" members then some members else none
      | _ => none
  | _ => none

/-- Whether a text is an object with a key type. -/
def recognises (text : String) : Bool :=
  (object? text).isSome

/-- The string under a member. -/
def member (key : Table Json) (name : String) : Outcome String :=
  match (Table.find? name key).bind Json.string? with
  | some value => .ok value
  | none => .error (.parse ("JWK is missing member '" ++ name ++ "'"))

/-- The octets under a member. -/
def octets (key : Table Json) (name : String) : Outcome Octets := do
  match Base64.urlSafe.decode (← member key name) with
  | .ok octets => return octets
  | .error fault =>
      throw (.parse ("JWK member '" ++ name ++ "' is not base64url: " ++ fault.message))

/-- The number under a member. -/
def number (key : Table Json) (name : String) : Outcome Nat := do
  return Octets.toNat (← octets key name)

/-! ## Curve keys -/

/-- The number of a coordinate in full width. -/
def coordinate? (members : List (String × Json)) (name : String) : Option Nat := do
  let text ← (Table.find? name members).bind Json.string?
  let octets ← (Base64.urlSafe.decode text).toOption
  if octets.length = P256.width then some (Octets.toNat octets) else none

/-- Whether the members are exactly the named ones, each once. -/
def hasExactly (names : List String) (members : List (String × Json)) : Bool :=
  Table.keysDistinct members && members.all (fun member => names.contains member.1) &&
    names.all fun name => Table.has name members

/-- The point of a curve key. -/
def point? (members : List (String × Json)) : Option P256.Point := do
  P256.Point.ofCoordinates? (← coordinate? members "x") (← coordinate? members "y")

/-- A public curve key. -/
def curvePublic? (members : List (String × Json)) : Option PublicKey := do
  if hasExactly ["kty", "crv", "x", "y"] members then
    return .p256 (← point? members)
  else none

/-- A private curve key, whose point is the one of its scalar. -/
def curvePrivate? (members : List (String × Json)) : Option PrivateKey := do
  if hasExactly ["kty", "crv", "x", "y", "d"] members then
    let point ← point? members
    let key ← P256.PrivateKey.ofScalar? (← coordinate? members "d")
    if key.point = point then some (.p256 key) else none
  else none

/-- Decode a curve key. -/
def decodeCurve (members : List (String × Json)) (key : Table Json) : Outcome KeyMaterial := do
  let curve ← member key "crv"
  if curve ≠ "P-256" then
    throw (.parse ("Unsupported EC curve '" ++ curve ++ "'"))
  if Table.has "d" key then
    match curvePrivate? members with
    | some key => return .privateKey key
    | none => throw (.parse "Invalid EC private JWK: crypto error")
  else
    match curvePublic? members with
    | some key => return .publicKey key
    | none => throw (.parse "Invalid EC public JWK: crypto error")

/-! ## RSA and symmetric keys -/

/-- Decode an RSA key. -/
def decodeRsa (key : Table Json) : Outcome KeyMaterial := do
  let modulus ← number key "n"
  let exponent ← number key "e"
  if ["d", "p", "q"].all fun name => Table.has name key then
    let privateExponent ← number key "d"
    let firstFactor ← number key "p"
    let secondFactor ← number key "q"
    match Rsa.PrivateKey.ofNumbers modulus exponent privateExponent firstFactor secondFactor with
    | .ok key => return .privateKey (.rsa key)
    | .error fault => throw (.parse ("Invalid RSA private JWK: " ++ fault.message))
  else
    match Rsa.PublicKey.ofNumbers modulus exponent with
    | .ok key => return .publicKey (.rsa key)
    | .error fault => throw (.parse ("Invalid RSA public JWK: " ++ fault.message))

/-- Decode a symmetric key. -/
def decodeSymmetric (key : Table Json) : Outcome KeyMaterial := do
  match ← octets key "k" with
  | [] => throw (.parse "Symmetric JWK has an empty key")
  | secret => return .symmetric secret

/-- Decode a JSON web key. -/
def decode (text : String) : Outcome KeyMaterial := do
  match object? text with
  | none => throw (.parse "Not a JSON Web Key")
  | some members =>
      let key := Table.ofEntries members
      match ← member key "kty" with
      | "EC" => decodeCurve members key
      | "RSA" => decodeRsa key
      | "oct" => decodeSymmetric key
      | other => throw (.parse ("Unsupported JWK key type '" ++ other ++ "'"))

/-- JSON web keys as a form of keys. -/
def form : TextForm := ⟨"jwk", recognises, decode⟩

/-! ## Writing -/

/-- A member with the base64url text of octets. -/
def octetsMember (name : String) (octets : Octets) : String × Json :=
  (name, .string (Base64.urlSafe.encode octets))

/-- A member with a number in the fewest octets; zero has one octet. -/
def numberMember (name : String) (n : Nat) : String × Json :=
  octetsMember name (if n = 0 then [0] else Octets.ofNatShortest n)

/-- The members of a public key. -/
def publicMembers : PublicKey → List (String × Json)
  | .p256 point =>
      [("kty", .string "EC"), ("crv", .string "P-256"),
        octetsMember "x" (P256.octetsOf point.x), octetsMember "y" (P256.octetsOf point.y)]
  | .rsa key =>
      [("kty", .string "RSA"), numberMember "n" key.modulus, numberMember "e" key.exponent]

/-- The members of a private key that its public key does not have. -/
def privateMembers : PrivateKey → List (String × Json)
  | .p256 key => [octetsMember "d" (P256.octetsOf key.scalar)]
  | .rsa key =>
      [numberMember "d" key.privateExponent, numberMember "p" key.firstFactor,
        numberMember "q" key.secondFactor]

/-- A public key as a JSON web key. -/
def writePublic (key : PublicKey) : String :=
  Json.write (.object (publicMembers key))

/-- A private key as a JSON web key. -/
def writePrivate (key : PrivateKey) : String :=
  Json.write (.object (publicMembers key.publicKey ++ privateMembers key))

end Attest.Key.WebKey
