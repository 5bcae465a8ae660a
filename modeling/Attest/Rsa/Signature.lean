import Attest.Octets
import Attest.Rsa
import Attest.Sha2

/-!
# RSA signatures

Two ways to turn a message into a number below the modulus: the deterministic one
with the name of the hash function in front of the digest, and the salted one
with a mask.  Keys of 2048 to 8192 bits sign and verify.  A signature is made from
the factors and is only handed out when the public exponent undoes it.
-/

namespace Attest.Rsa

/-- How a message becomes a number. -/
inductive Padding where
  /-- The digest after the name of its hash function. -/
  | named
  /-- A masked digest of the message and a salt. -/
  | salted
  deriving DecidableEq, Repr

/-- The sizes of keys that sign and verify. -/
def signingSize (modulus : Nat) : Bool :=
  2048 ≤ bitLength modulus && bitLength modulus ≤ 8192

/-- The octets of a number below the modulus. -/
def PublicKey.width (key : PublicKey) : Nat :=
  Octets.width key.modulus

/-! ## The named padding -/

/-- The written name of a hash function and the head of its digest. -/
def digestHead : Hash → Octets
  | .sha256 =>
      [0x30, 0x31, 0x30, 0x0D, 0x06, 0x09, 0x60, 0x86, 0x48, 0x01, 0x65, 0x03, 0x04, 0x02, 0x01,
        0x05, 0x00, 0x04, 0x20]
  | .sha384 =>
      [0x30, 0x41, 0x30, 0x0D, 0x06, 0x09, 0x60, 0x86, 0x48, 0x01, 0x65, 0x03, 0x04, 0x02, 0x02,
        0x05, 0x00, 0x04, 0x30]
  | .sha512 =>
      [0x30, 0x51, 0x30, 0x0D, 0x06, 0x09, 0x60, 0x86, 0x48, 0x01, 0x65, 0x03, 0x04, 0x02, 0x03,
        0x05, 0x00, 0x04, 0x40]

/-- A message in so many octets, with the named padding. -/
def namedEncoding (hash : Hash) (width : Nat) (message : Octets) : Octets :=
  let tail := digestHead hash ++ hash.digest message
  0x00 :: 0x01 :: (List.replicate (width - tail.length - 3) 0xFF ++ 0x00 :: tail)

/-! ## The salted padding -/

/-- So many octets generated from a seed by a hash function. -/
def generatedMask (hash : Hash) (seed : Octets) (width : Nat) : Octets :=
  ((List.range (width / hash.width + 1)).flatMap fun i =>
    hash.digest (seed ++ Octets.ofNat 4 i)).take width

/-- Two strings of octets added bitwise. -/
def addBitwise (a b : Octets) : Octets :=
  List.zipWith (fun x y => x ^^^ y) a b

/-- The number of bits of an encoded message. -/
def saltedBits (modulus : Nat) : Nat := bitLength modulus - 1

/-- The number of octets of an encoded message. -/
def saltedWidth (modulus : Nat) : Nat := (saltedBits modulus + 7) / 8

/-- Clear the bits of the first octet that are beyond the encoded message. -/
def clearTop (modulus : Nat) : Octets → Octets
  | [] => []
  | first :: rest =>
      let kept := 8 - (8 * saltedWidth modulus - saltedBits modulus)
      UInt8.ofNat (first.toNat % Nat.pow 2 kept) :: rest

/-- The digest of a message and a salt. -/
def saltedDigest (hash : Hash) (salt message : Octets) : Octets :=
  hash.digest (List.replicate 8 0 ++ hash.digest message ++ salt)

/-- A message with the salted padding. -/
def saltedEncoding (hash : Hash) (modulus : Nat) (salt message : Octets) : Octets :=
  let digest := saltedDigest hash salt message
  let blockWidth := saltedWidth modulus - hash.width - 1
  let block := List.replicate (blockWidth - salt.length - 1) 0 ++ 0x01 :: salt
  let masked := addBitwise block (generatedMask hash digest blockWidth)
  clearTop modulus masked ++ digest ++ [0xBC]

/-- The salt of an encoded message, if it has the form of one with a salt as long as
the digest. -/
def saltOf? (hash : Hash) (modulus : Nat) (encoded : Octets) : Option Octets :=
  let blockWidth := saltedWidth modulus - hash.width - 1
  let masked := encoded.take blockWidth
  let digest := (encoded.drop blockWidth).take hash.width
  let block :=
    clearTop modulus (addBitwise masked (generatedMask hash digest blockWidth))
  let zeros := blockWidth - hash.width - 1
  if clearTop modulus masked = masked ∧ block.take zeros = List.replicate zeros 0 ∧
      (block.drop zeros).head? = some 0x01 ∧ encoded.getLast? = some 0xBC then
    some (block.drop (zeros + 1))
  else none

/-- Whether an encoded message is one of the message with the salted padding. -/
def saltedMatches (hash : Hash) (modulus : Nat) (encoded message : Octets) : Bool :=
  match saltOf? hash modulus encoded with
  | some salt => encoded == saltedEncoding hash modulus salt message
  | none => false

/-! ## Signing and verifying -/

/-- The number that a private key signs another one with, from the factors. -/
def PrivateKey.power? (key : PrivateKey) (number : Nat) : Option Nat := do
  let p := key.firstFactor
  let q := key.secondFactor
  let coefficient ← key.coefficient?
  let first := powMod p (number % p) (key.privateExponent % (p - 1))
  let second := powMod q (number % q) (key.privateExponent % (q - 1))
  let difference := (first + (p - second % p)) % p
  return second + coefficient * difference % p * q

/-- Sign an encoded message, unless the key is unfit or the result does not
verify. -/
def PrivateKey.signNumber? (key : PrivateKey) (number : Nat) : Option Nat := do
  let modulus := key.publicKey.modulus
  if signingSize modulus ∧ key.privateExponent < modulus then
    let signature ← key.power? number
    if powMod modulus signature key.publicKey.exponent = number then some signature else none
  else none

/-- Sign a message; `salt` is used by the salted padding. -/
def PrivateKey.sign? (key : PrivateKey) (padding : Padding) (hash : Hash)
    (salt message : Octets) : Option Octets := do
  let encoded := match padding with
    | .named => namedEncoding hash key.publicKey.width message
    | .salted => saltedEncoding hash key.publicKey.modulus salt message
  let signature ← key.signNumber? (Octets.toNat encoded)
  return Octets.ofNat key.publicKey.width signature

/-- Whether octets sign a message under a key. -/
def PublicKey.verifies (key : PublicKey) (padding : Padding) (hash : Hash)
    (message signature : Octets) : Bool :=
  signingSize key.modulus && signature.length == key.width &&
    Octets.toNat signature < key.modulus &&
    (let number := powMod key.modulus (Octets.toNat signature) key.exponent
     match padding with
     | .named => number == Octets.toNat (namedEncoding hash key.width message)
     | .salted =>
         let width := saltedWidth key.modulus
         Octets.width number ≤ width &&
           saltedMatches hash key.modulus (Octets.ofNat width number) message)

end Attest.Rsa
