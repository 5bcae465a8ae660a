import Attest.Base64
import Attest.Failure
import Attest.Key.Der

/-!
# Keys as they are handed to a signer or verifier

A signer gets a private key in binary form: a curve key in its envelope, an RSA key
in its bare form, which exists only when the second factor has an inverse modulo
the first and the numbers are not too long; what is said about an RSA key without one is up to
what writes it.  A verifier gets the numbers of a public
key in base64url, and may refuse them.  Both can be read back.
-/

namespace Attest.Token

/-- A private key as a signer gets it. -/
inductive SigningKey where
  | curve (envelope : Octets)
  | rsa (bare : Octets)
  deriving DecidableEq, Repr

namespace SigningKey

/-- Hand over a private key, with the words for an RSA key that has no bare form. -/
def ofPrivate (unwritten : Rsa.PrivateKey → String) : PrivateKey → Outcome SigningKey
  | .p256 key => .ok (.curve (Key.writePrivateEnvelope .p256 (Key.writeCurveKey key)))
  | .rsa key =>
      match Key.writeRsaPrivateKey? key with
      | some bare => .ok (.rsa bare)
      | none => .error (.issuance ("Failed to encode RSA signing key: " ++ unwritten key))

/-- The private key that was handed over. -/
def private? : SigningKey → Option PrivateKey
  | .curve envelope => Key.readPrivateKey? envelope
  | .rsa bare => (Key.readRsaPrivateKey? bare).map PrivateKey.rsa

/-- The name of the form. -/
def name : SigningKey → String
  | .curve _ => "Ec"
  | .rsa _ => "Rsa"

end SigningKey

/-- The numbers of a public key in base64url, as they are handed to a verifier. -/
inductive Components where
  | curve (x y : String)
  | rsa (modulus exponent : String)
  deriving DecidableEq, Repr

namespace Components

/-- The components of a public key.  Those of a point are both coordinates in full width,
which its spelling has to state. -/
def ofPublic? : PublicKey → Option Components
  | .p256 point => do
      let (x, y) ← P256.coordinateOctets? point.octets
      return .curve (Base64.urlSafe.encode x) (Base64.urlSafe.encode y)
  | .rsa key =>
      some (.rsa (Base64.urlSafe.encode (Octets.ofNatNonempty key.modulus))
        (Base64.urlSafe.encode (Octets.ofNatNonempty key.exponent)))

/-- The failure to make a verifier of the components. -/
def refused (cause : String) : Components → Failure
  | .curve _ _ => .signature ("Failed to create EC decoding key: " ++ cause)
  | .rsa _ _ => .signature ("Failed to create RSA decoding key: " ++ cause)

/-- Hand a public key over to a verifier, which makes what it needs of the components. -/
def handOver {Verifier : Type} (make : Components → Except String Verifier) (key : PublicKey) :
    Outcome Verifier :=
  match ofPublic? key with
  | some components => (make components).mapError fun cause => refused cause components
  | none => .error (.signature "EC public key is the identity point")

end Components

/-- A public key as a verifier keeps it: the spelling of a point, or the octets of a
modulus and an exponent. -/
inductive VerifyingKey where
  | curve (spelling : Octets)
  | rsa (modulus exponent : Octets)
  deriving DecidableEq, Repr

namespace VerifyingKey

/-- The octets of a component. -/
def octets (component : String) : Except String Octets :=
  (Base64.urlSafe.decode component).mapError fun fault => "Base64 error: " ++ fault.message

/-- Make a key of components, which only have to be base64url. -/
def ofComponents : Components → Except String VerifyingKey
  | .curve x y => do
      let x ← octets x
      let y ← octets y
      return .curve (0x04 :: (x ++ y))
  | .rsa modulus exponent => do
      return .rsa (← octets modulus) (← octets exponent)

/-- Hand a public key over to the verifier of tokens. -/
def handOver (key : PublicKey) : Outcome VerifyingKey :=
  Components.handOver ofComponents key

/-- The key that is kept of a public key. -/
def ofPublic : PublicKey → VerifyingKey
  | .p256 point => .curve point.octets
  | .rsa key => .rsa (Octets.ofNatNonempty key.modulus) (Octets.ofNatNonempty key.exponent)

/-- The public key that is kept. -/
def public? : VerifyingKey → Option PublicKey
  | .curve spelling => (P256.Point.ofOctets? spelling).map .p256
  | .rsa modulus exponent => some (.rsa ⟨Octets.toNat modulus, Octets.toNat exponent⟩)

/-- The name of the form. -/
def name : VerifyingKey → String
  | .curve _ => "Ec"
  | .rsa _ _ => "Rsa"

end VerifyingKey

end Attest.Token
