import Attest.P256.Signature
import Attest.Rsa.Signature
import Attest.Token.Algorithm

/-!
# Signatures of tokens

A signature scheme signs octets with a private key and verifies them with a
public one, of each family.  Under an algorithm, the keys of the family that the
algorithm is made for sign; all others are refused, and no signature verifies under
them.  The standard scheme uses the curve and RSA signatures; the salt of a salted
signature is derived from the message and a seed.  What is said about a key that cannot sign comes
from outside, from whatever writes keys and signs with them.
-/

namespace Attest.Token

/-- Why octets cannot be signed. -/
inductive SigningFault where
  /-- The algorithm is of another family than the key. -/
  | algorithm
  /-- The algorithm needs another curve. -/
  | curve
  /-- The numbers of the key do not yield a signature, in the words of the signer. -/
  | key (words : String)
  deriving DecidableEq, Repr

/-- The text of a signing fault. -/
def SigningFault.message : SigningFault → String
  | .algorithm => "InvalidAlgorithm"
  | .curve => "InvalidEcdsaKey"
  | .key words => words

/-- The padding and the hash function of an RSA algorithm. -/
def Algorithm.rsaForm? : Algorithm → Option (Rsa.Padding × Hash)
  | .rs256 => some (.named, .sha256)
  | .rs384 => some (.named, .sha384)
  | .rs512 => some (.named, .sha512)
  | .ps256 => some (.salted, .sha256)
  | .ps384 => some (.salted, .sha384)
  | .ps512 => some (.salted, .sha512)
  | _ => none

/-- What a signer says about keys that it cannot sign with. -/
structure SignerWords where
  /-- About an RSA key that has no bare form. -/
  unwritten : Rsa.PrivateKey → String
  /-- About a key that yields no signature under an algorithm of its family. -/
  unsigned : Algorithm → PrivateKey → String

/-- No words at all, as suits what only verifies. -/
def SignerWords.none : SignerWords := ⟨fun _ => "", fun _ _ => ""⟩

/-- The ways to sign and to verify with the keys of each family. -/
structure SignatureScheme where
  curveSign : P256.PrivateKey → (message : Octets) → Option Octets
  curveVerifies : P256.Point → (message signature : Octets) → Bool
  rsaSign : Rsa.PrivateKey → Rsa.Padding → Hash → (message : Octets) → Option Octets
  rsaVerifies : Rsa.PublicKey → Rsa.Padding → Hash → (message signature : Octets) → Bool
  words : SignerWords

namespace SignatureScheme

/-- The signature that a key yields, or the words for a key that yields none. -/
def signed (words : String) : Option Octets → Except SigningFault Octets
  | some signature => .ok signature
  | none => .error (.key words)

/-- Sign octets under an algorithm. -/
def sign (scheme : SignatureScheme) (algorithm : Algorithm) (key : PrivateKey)
    (message : Octets) : Except SigningFault Octets :=
  let unsigned := scheme.words.unsigned algorithm key
  match key with
  | .p256 key =>
      match algorithm with
      | .es256 => signed unsigned (scheme.curveSign key message)
      | .es384 => .error .curve
      | _ => .error .algorithm
  | .rsa key =>
      match algorithm.rsaForm? with
      | some (padding, hash) => signed unsigned (scheme.rsaSign key padding hash message)
      | none => .error .algorithm

/-- Verify a signature under an algorithm. -/
def verify (scheme : SignatureScheme) (algorithm : Algorithm) (key : PublicKey)
    (message signature : Octets) : Bool :=
  match key with
  | .p256 point => algorithm == .es256 && scheme.curveVerifies point message signature
  | .rsa key =>
      match algorithm.rsaForm? with
      | some (padding, hash) => scheme.rsaVerifies key padding hash message signature
      | none => false

/-- The salt for a message. -/
def saltFor (hash : Hash) (seed message : Octets) : Octets :=
  hash.authenticate seed message

/-- The scheme of curve and RSA signatures. -/
def standard (words : SignerWords) (seed : Octets) : SignatureScheme where
  curveSign := P256.PrivateKey.sign?
  curveVerifies := P256.Point.verifies
  rsaSign key padding hash message := key.sign? padding hash (saltFor hash seed message) message
  rsaVerifies := Rsa.PublicKey.verifies
  words := words

end SignatureScheme

end Attest.Token
