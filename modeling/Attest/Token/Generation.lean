import Attest.Failure
import Attest.Time
import Attest.Token.Compact
import Attest.Token.HandedKey
import Attest.Token.Signature

/-!
# Generating tokens

A token starts as a draft with the preferred algorithm of its key and without
claims.  Decorations change the draft one after the other; then it is signed, if the
key can be handed to a signer.
-/

namespace Attest.Token

/-- A token that is being made. -/
structure Draft where
  header : Header
  /-- The claims in the order in which they were first set. -/
  claims : Table Json

/-- A change of a draft. -/
abbrev Decoration := Draft → Draft

namespace Decoration

/-- Set claims. -/
def claims (members : List (String × Json)) : Decoration := fun draft =>
  { draft with claims := Table.insertAll draft.claims members }

/-- The claims that say when a token was issued, when it expires, whom it is for and
which token it is. -/
def standardMembers (issued expires : Instant) (audience identifier : String) :
    List (String × Json) :=
  [("iat", .int issued.seconds), ("exp", .int expires.seconds), ("aud", .string audience),
    ("jti", .string identifier)]

/-- Set the standard claims. -/
def standard (issued expires : Instant) (audience identifier : String) : Decoration :=
  claims (standardMembers issued expires audience identifier)

/-- Set the header. -/
def header (change : Header → Header) : Decoration := fun draft =>
  { draft with header := change draft.header }

/-- Name the key. -/
def keyId (identifier : String) : Decoration :=
  header fun header => { header with kid := some identifier }

/-- Remove a claim. -/
def without (name : String) : Decoration := fun draft =>
  { draft with claims := Table.erase name draft.claims }

/-- Set an additional member of the header. -/
def extra (name text : String) : Decoration :=
  header fun header => { header with extras := Table.insert name text header.extras }

end Decoration

/-- The draft that a key starts with. -/
def Draft.start (key : PrivateKey) : Draft :=
  ⟨{ algorithm := Algorithm.preferred key.family, typ := some "JWT" }, []⟩

/-- The draft after all decorations. -/
def Draft.decorated (key : PrivateKey) (decorations : List Decoration) : Draft :=
  decorations.foldl (fun draft decoration => decoration draft) (Draft.start key)

/-- Sign a draft. -/
def Draft.sign (scheme : SignatureScheme) (key : PrivateKey) (draft : Draft) : Outcome Compact :=
  let token := Compact.unsigned draft.header draft.claims
  match scheme.sign draft.header.algorithm key token.signedOctets with
  | .ok signature => .ok (token.withSignature signature)
  | .error fault => .error (.issuance ("Failed to sign token: " ++ fault.message))

/-- Make a token. -/
def generate (scheme : SignatureScheme) (key : PrivateKey) (decorations : List Decoration) :
    Outcome Compact := do
  let draft := Draft.decorated key decorations
  let _ ← SigningKey.ofPrivate scheme.words.unwritten key
  draft.sign scheme key

end Attest.Token
