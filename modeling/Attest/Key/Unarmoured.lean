import Attest.Base64
import Attest.Key.Der
import Attest.Key.TextForm
import Attest.Text.Blank

/-!
# Keys in plain base64

The base64 text of a private or public key envelope, without armour.  ASCII
blanks may stand anywhere in it.
-/

namespace Attest.Key.Unarmoured

/-- Whether a character is a letter, a digit, `+`, `/` or `=`. -/
def isSymbol (c : Char) : Bool :=
  c.isAlphanum || c == '+' || c == '/' || c == '='

/-- Whether a text consists of full groups of symbols, blanks left out. -/
def recognises (text : String) : Bool :=
  let symbols := Text.squeeze text.toList
  !symbols.isEmpty && symbols.length % 4 == 0 && symbols.all isSymbol

/-- Read a key in an envelope. -/
def readEnvelope? (octets : Octets) : Option KeyMaterial :=
  match readPrivateKey? octets with
  | some key => some (.privateKey key)
  | none => (readPublicKey? octets).map .publicKey

/-- Decode a key in plain base64. -/
def decode (text : String) : Outcome KeyMaterial :=
  match Base64.standard.decode (String.ofList (Text.squeeze text.toList)) with
  | .error fault => .error (.parse ("Invalid base64: " ++ fault.message))
  | .ok octets =>
      match readEnvelope? octets with
      | some material => .ok material
      | none =>
          .error (.parse "DER content is neither a PKCS#8 private key nor an SPKI public key")

/-- Plain base64 as a form of keys. -/
def form : TextForm := ⟨"base64-der", recognises, decode⟩

/-- A private key in plain base64, when it has a bare form. -/
def writePrivate? (key : PrivateKey) : Option String :=
  (writePrivateKey? key).map Base64.standard.encode

/-- A public key in plain base64. -/
def writePublic (key : PublicKey) : String :=
  Base64.standard.encode (writePublicKey key)

end Attest.Key.Unarmoured
