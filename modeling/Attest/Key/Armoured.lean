import Attest.Key.Der
import Attest.Key.TextForm
import Attest.Pem

/-!
# Armoured keys

The label of the armour says which binary form the body has.  A text is of this
form when it starts, after blanks, like armour; its label is read leniently to
choose the binary form, and the armour itself is then read strictly.  What is wrong with an
armour or its body is told in the words of what reads it.
-/

namespace Attest.Key.Armoured

/-- How an armoured key starts. -/
def lead : List Char := "-----BEGIN".toList

/-- What closes a label. -/
def close : List Char := "-----".toList

/-- The labels of armoured keys. -/
inductive Label where
  | privateKey
  | curvePrivateKey
  | rsaPrivateKey
  | publicKey
  | rsaPublicKey
  deriving DecidableEq, Repr

namespace Label

/-- The text of a label. -/
def text : Label → String
  | .privateKey => "PRIVATE KEY"
  | .curvePrivateKey => "EC PRIVATE KEY"
  | .rsaPrivateKey => "RSA PRIVATE KEY"
  | .publicKey => "PUBLIC KEY"
  | .rsaPublicKey => "RSA PUBLIC KEY"

/-- Every label. -/
def all : List Label :=
  [.privateKey, .curvePrivateKey, .rsaPrivateKey, .publicKey, .rsaPublicKey]

/-- The label with the given text. -/
def ofText? (text : String) : Option Label :=
  all.find? fun label => label.text == text

/-- The beginning of the message about a body that is not what its label says. -/
def complaint : Label → String
  | .privateKey => "Invalid PKCS#8 private key: "
  | .curvePrivateKey => "Invalid SEC1 EC private key: "
  | .rsaPrivateKey => "Invalid PKCS#1 RSA private key: "
  | .publicKey => "Invalid SPKI public key: "
  | .rsaPublicKey => "Invalid PKCS#1 RSA public key: "

/-- Read a body of the form that a label announces. -/
def read? : Label → Octets → Option KeyMaterial
  | .privateKey, body => (readPrivateKey? body).map .privateKey
  | .curvePrivateKey, body => (readCurveKey? body).map fun key => .privateKey (.p256 key)
  | .rsaPrivateKey, body => (readRsaPrivateKey? body).map fun key => .privateKey (.rsa key)
  | .publicKey, body => (readPublicKey? body).map .publicKey
  | .rsaPublicKey, body => (readRsaPublicKey? body).map fun key => .publicKey (.rsa key)

end Label

/-- The label that a text seems to have. -/
def label? (text : List Char) : Option String := do
  let rest ← lead.isPrefixOf? text
  let (label, _) ← Text.cutAt? close (Text.trimStart rest)
  return String.ofList (Text.trim label)

/-- Whether a text starts like armour. -/
def recognises (text : String) : Bool :=
  lead.isPrefixOf (Text.trimStart text.toList)

/-- Decode an armoured key, with the words for an armour or a body that is not read. -/
def decode (unread : String) (text : String) : Outcome KeyMaterial :=
  let trimmed := Text.trim text.toList
  match label? trimmed with
  | none => .error (.parse "Malformed PEM armour")
  | some name =>
      match Label.ofText? name with
      | none => .error (.parse ("Unsupported PEM label '" ++ name ++ "'"))
      | some label =>
          match (Pem.read? label.text (Octets.ofText (String.ofList trimmed))).bind label.read? with
          | some material => .ok material
          | none => .error (.parse (label.complaint ++ unread))

/-- Armoured text as a form of keys, with the words for each text that is not read. -/
def form (unread : String → String) : TextForm :=
  ⟨"pem", recognises, fun text => decode (unread text) text⟩

/-- An armoured private key, when it has a bare form. -/
def writePrivate? (key : PrivateKey) : Option String :=
  (writePrivateKey? key).map (Pem.write Label.privateKey.text)

/-- An armoured public key. -/
def writePublic (key : PublicKey) : String :=
  Pem.write Label.publicKey.text (writePublicKey key)

end Attest.Key.Armoured
