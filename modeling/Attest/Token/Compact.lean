import Attest.Base64
import Attest.Json.Writer
import Attest.Token.Header

/-!
# Compact tokens

A token is three segments of base64url joined by dots: the header, the payload and
the signature.  What is signed is the text of the first two with the dot between
them.
-/

namespace Attest.Token

/-- The three segments of a token. -/
structure Compact where
  header : String
  payload : String
  signature : String
  deriving DecidableEq, Repr

namespace Compact

/-- The segments of a text with exactly two dots. -/
def ofText? (text : String) : Option Compact :=
  match text.toList.splitOn '.' with
  | [header, payload, signature] =>
      some ⟨String.ofList header, String.ofList payload, String.ofList signature⟩
  | _ => none

/-- The text of a token. -/
def text (token : Compact) : String :=
  token.header ++ "." ++ token.payload ++ "." ++ token.signature

/-- What the signature is about. -/
def signedOctets (token : Compact) : Octets :=
  Octets.ofText (token.header ++ "." ++ token.payload)

/-- The document in a segment, repeated members kept. -/
def document? (segment : String) : Option Json := do
  let octets ← (Base64.urlSafe.decode segment).toOption
  Json.read (← Octets.toText? octets)

/-- The header of a token. -/
def header? (token : Compact) : Option Header :=
  (document? token.header).bind Header.ofJson?

/-- The members of the payload, repeated ones kept. -/
def payload? (token : Compact) : Option (List (String × Json)) :=
  (document? token.payload).bind Json.object?

/-- The octets of the signature. -/
def signature? (token : Compact) : Option Octets :=
  (Base64.urlSafe.decode token.signature).toOption

/-- The segment of a document. -/
def segment (document : Json) : String :=
  Base64.urlSafe.encode (Octets.ofText (Json.write document))

/-- The segments of a token that is still to be signed. -/
def unsigned (header : Header) (claims : List (String × Json)) : Compact :=
  ⟨segment (.object header.members), segment (.object claims), ""⟩

/-- The token with its signature. -/
def withSignature (token : Compact) (signature : Octets) : Compact :=
  { token with signature := Base64.urlSafe.encode signature }

end Compact

end Attest.Token
