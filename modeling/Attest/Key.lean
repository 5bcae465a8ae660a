import Attest.P256
import Attest.Rsa

/-!
# Keys

The key material that signs and verifies tokens: private and public keys of the
two families, and symmetric secrets.
-/

namespace Attest

/-- The families of keys. -/
inductive KeyFamily where
  | p256
  | rsa
  | symmetric
  deriving DecidableEq, Repr

/-- The name of a family. -/
def KeyFamily.name : KeyFamily → String
  | .p256 => "ec-p256"
  | .rsa => "rsa"
  | .symmetric => "symmetric"

/-- A key that verifies signatures. -/
inductive PublicKey where
  | p256 (point : P256.Point)
  | rsa (key : Rsa.PublicKey)
  deriving DecidableEq, Repr

/-- The family of a public key. -/
def PublicKey.family : PublicKey → KeyFamily
  | .p256 _ => .p256
  | .rsa _ => .rsa

/-- A key that signs. -/
inductive PrivateKey where
  | p256 (key : P256.PrivateKey)
  | rsa (key : Rsa.PrivateKey)
  deriving DecidableEq, Repr

namespace PrivateKey

/-- The family of a private key. -/
def family : PrivateKey → KeyFamily
  | .p256 _ => .p256
  | .rsa _ => .rsa

/-- The key that verifies what a private key signs. -/
def publicKey : PrivateKey → PublicKey
  | .p256 key => .p256 key.point
  | .rsa key => .rsa key.publicKey

@[simp]
theorem family_publicKey (key : PrivateKey) : key.publicKey.family = key.family := by
  cases key <;> rfl

end PrivateKey

/-- What a text with a key in it decodes to. -/
inductive KeyMaterial where
  | privateKey (key : PrivateKey)
  | publicKey (key : PublicKey)
  | symmetric (secret : Octets)
  deriving DecidableEq, Repr

namespace KeyMaterial

/-- The family of key material. -/
def family : KeyMaterial → KeyFamily
  | .privateKey key => key.family
  | .publicKey key => key.family
  | .symmetric _ => .symmetric

/-- The name of the kind of key material. -/
def kind : KeyMaterial → String
  | .privateKey _ => "private"
  | .publicKey _ => "public"
  | .symmetric _ => "symmetric"

/-- The private key, if the material is one. -/
def private? : KeyMaterial → Option PrivateKey
  | .privateKey key => some key
  | _ => none

/-- The public key, if the material is one. -/
def public? : KeyMaterial → Option PublicKey
  | .publicKey key => some key
  | _ => none

end KeyMaterial

end Attest
