import Attest.P256
import Attest.Sha2

/-!
# Signatures on P-256

A signature is a pair of numbers, written as 64 octets.  The secret number that a
signature needs is derived from the key and the message, so signing is a function.
Both a number and its opposite verify as the second half of a signature.
-/

namespace Attest.P256

/-- The digest of a message as a number. -/
def messageNumber (message : Octets) : Nat :=
  Octets.toNat (Hash.sha256.digest message)

/-- The first candidates for the secret number of a signature, by the chained
authentication codes of the key and the message. -/
def secretCandidates : (fuel : Nat) → (key value : Octets) → List Nat
  | 0, _, _ => []
  | fuel + 1, key, value =>
      let value := Hash.sha256.authenticate key value
      let nextKey := Hash.sha256.authenticate key (value ++ [0])
      Octets.toNat value ::
        secretCandidates fuel nextKey (Hash.sha256.authenticate nextKey value)

/-- How many secret numbers are tried. -/
def secretTries : Nat := 8

/-- The secret numbers to try for a key and a message. -/
def secrets (scalar number : Nat) : List Nat :=
  let seed := octetsOf scalar ++ octetsOf (number % order)
  let value := List.replicate 32 0x01
  let key := Hash.sha256.authenticate (List.replicate 32 0x00) (value ++ 0x00 :: seed)
  let value := Hash.sha256.authenticate key value
  let key := Hash.sha256.authenticate key (value ++ 0x01 :: seed)
  let value := Hash.sha256.authenticate key value
  (secretCandidates secretTries key value).filter fun secret => 0 < secret && secret < order

/-- The signature that a secret number gives, unless one of its halves is zero. -/
def signatureWith? (scalar number secret : Nat) : Option (Nat × Nat) := do
  let point ← generatorMultiple? secret
  let r := point.x % order
  let inverse := powMod order secret (order - 2)
  let s := inverse * (number + r * scalar) % order
  if r = 0 ∨ s = 0 then none else some (r, s)

/-- Sign a message. -/
def PrivateKey.sign? (key : PrivateKey) (message : Octets) : Option Octets := do
  let number := messageNumber message
  let (r, s) ← (secrets key.scalar number).findSome? (signatureWith? key.scalar number)
  return octetsOf r ++ octetsOf s

/-- Whether a pair of numbers signs a number under a point. -/
def verifiesNumbers (point : Point) (number r s : Nat) : Bool :=
  0 < r && r < order && 0 < s && s < order &&
    (let inverse := powMod order s (order - 2)
     let left := (Jacobian.ofPoint generator).multiply (number * inverse % order)
     let right := (Jacobian.ofPoint point).multiply (r * inverse % order)
     match (left.add right).toPoint? with
     | some sum => sum.x % order == r
     | none => false)

/-- Whether octets sign a message under a point. -/
def Point.verifies (point : Point) (message signature : Octets) : Bool :=
  signature.length == 2 * width &&
    verifiesNumbers point (messageNumber message) (Octets.toNat (signature.take width))
      (Octets.toNat (signature.drop width))

end Attest.P256
