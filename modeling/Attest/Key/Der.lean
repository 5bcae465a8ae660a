import Attest.Der
import Attest.Key

/-!
# Keys in distinguished encoding

The binary forms of keys: the private key envelope of any algorithm, the public
key envelope, and the bare forms of private curve keys and of RSA keys.  Reading
is strict about the encoding and checks that the numbers make a key; what a text
says twice, such as the public point inside a private key, has to agree.
-/

namespace Attest.Key

open Der

/-! ## Object identifiers -/

/-- The object identifier of curve keys. -/
def curveKeyId : Octets := [0x2A, 0x86, 0x48, 0xCE, 0x3D, 0x02, 0x01]

/-- The object identifier of the curve P-256. -/
def p256Id : Octets := [0x2A, 0x86, 0x48, 0xCE, 0x3D, 0x03, 0x01, 0x07]

/-- The object identifier of RSA keys. -/
def rsaKeyId : Octets := [0x2A, 0x86, 0x48, 0x86, 0xF7, 0x0D, 0x01, 0x01, 0x01]

/-- The algorithms that keys are for. -/
inductive KeyAlgorithm where
  | p256
  | rsa
  deriving DecidableEq, Repr

/-- The elements that name an algorithm: its identifier and its parameters. -/
def KeyAlgorithm.elements : KeyAlgorithm → List Element
  | .p256 => [⟨objectIdTag, curveKeyId⟩, ⟨objectIdTag, p256Id⟩]
  | .rsa => [⟨objectIdTag, rsaKeyId⟩, ⟨nullTag, []⟩]

/-- The written name of an algorithm. -/
def KeyAlgorithm.write (algorithm : KeyAlgorithm) : Octets :=
  writeSequence (algorithm.elements.map fun element => Der.write element.tag element.content)

/-- The algorithm that elements name. -/
def KeyAlgorithm.ofElements? (elements : List Element) : Option KeyAlgorithm :=
  if elements = KeyAlgorithm.p256.elements then some .p256
  else if elements = KeyAlgorithm.rsa.elements then some .rsa
  else none

/-- The algorithm that an element names. -/
def KeyAlgorithm.ofElement? (element : Element) : Option KeyAlgorithm := do
  let content ← element.contentOf? sequenceTag
  let elements ← readElements? content
  KeyAlgorithm.ofElements? elements

/-! ## Fields with a number -/

/-- Leave out the leading fields whose number is below `number`. -/
def skipFieldsBelow (number : Nat) (elements : List Element) : List Element :=
  elements.dropWhile fun element =>
    isContextTag element.tag && contextNumber element.tag < number

/-- Split off a leading field with the given number. -/
def splitField (number : Nat) : List Element → Option Element × List Element
  | element :: rest =>
      if isContextTag element.tag ∧ contextNumber element.tag = number then (some element, rest)
      else (none, element :: rest)
  | [] => (none, [])

/-- The element that a constructed field with the given number wraps. -/
def wrapped? (number : UInt8) (field : Element) : Option Element :=
  (field.contentOf? (contextTag number)).bind readOnly?

/-- Whether an element is a constructed field that wraps one element. -/
def isWrapper (element : Element) : Bool :=
  isContextTag element.tag && isConstructed element.tag && (readOnly? element.content).isSome

/-! ## Curve keys -/

/-- The least number of octets of a written scalar. -/
def leastScalarWidth : Nat := 24

/-- The private key of a written scalar; leading zeros may be missing. -/
def p256OfScalar? (octets : Octets) : Option P256.PrivateKey :=
  if leastScalarWidth ≤ octets.length ∧ octets.length ≤ P256.width then
    P256.PrivateKey.ofScalar? (Octets.toNat octets)
  else none

/-- Whether octets spell a point, uncompressed or compressed. -/
def spellsPoint (octets : Octets) (point : P256.Point) : Bool :=
  octets == point.octets || octets == point.compressedOctets

/-- Whether a field with curve parameters, if there is one, names a curve. -/
def curveFieldFine : Option Element → Bool
  | none => true
  | some field =>
      match wrapped? 0 field with
      | some element => element.tag == objectIdTag && isObjectId element.content
      | none => false

/-- Whether a field with a public point, if there is one, holds the given one. -/
def pointFieldFine (point : P256.Point) : Option Element → Bool
  | none => true
  | some field =>
      match (wrapped? 1 field).bind Element.bitString? with
      | some octets => spellsPoint octets point
      | none => false

/-- Read the bare form of a private curve key: version, scalar, and possibly the
curve and the public point. -/
def readCurveKey? (octets : Octets) : Option P256.PrivateKey := do
  match ← readSequence? octets with
  | version :: scalar :: fields =>
      if version.unsigned? ≠ some 1 then none
      let key ← p256OfScalar? (← scalar.contentOf? octetStringTag)
      let (curve, fields) := splitField 0 fields
      let (point, rest) := splitField 1 (skipFieldsBelow 1 fields)
      if curveFieldFine curve && pointFieldFine key.point point && rest.isEmpty then some key
      else none
  | _ => none

/-- Write the bare form of a private curve key, with its point. -/
def writeCurveKey (key : P256.PrivateKey) : Octets :=
  writeSequence
    [writeUnsigned 1, Der.write octetStringTag (P256.octetsOf key.scalar),
      Der.write (contextTag 1) (writeBitString key.point.octets)]

/-! ## RSA keys -/

/-- Read the bare form of a public RSA key. -/
def readRsaPublicKey? (octets : Octets) : Option Rsa.PublicKey := do
  match ← readSequence? octets with
  | [modulus, exponent] => (Rsa.PublicKey.ofNumbers (← modulus.unsigned?) (← exponent.unsigned?)).toOption
  | _ => none

/-- Write the bare form of a public RSA key. -/
def writeRsaPublicKey (key : Rsa.PublicKey) : Octets :=
  writeSequence [writeUnsigned key.modulus, writeUnsigned key.exponent]

/-- Read the bare form of a private RSA key with two factors.  The numbers that
follow the factors only have to be there. -/
def readRsaPrivateKey? (octets : Octets) : Option Rsa.PrivateKey := do
  match ← (← readSequence? octets).mapM Element.unsigned? with
  | [0, modulus, exponent, privateExponent, firstFactor, secondFactor, _, _, _] =>
      (Rsa.PrivateKey.ofNumbers modulus exponent privateExponent firstFactor secondFactor).toOption
  | _ => none

/-- Write the bare form of a private RSA key, when the second factor has an inverse
modulo the first and the numbers are not too long. -/
def writeRsaPrivateKey? (key : Rsa.PrivateKey) : Option Octets := do
  let coefficient ← key.coefficient?
  withinLimit? (writeSequence (([0, key.publicKey.modulus, key.publicKey.exponent,
    key.privateExponent, key.firstFactor, key.secondFactor,
    key.privateExponent % (key.firstFactor - 1), key.privateExponent % (key.secondFactor - 1),
    coefficient]).map writeUnsigned))

/-! ## Envelopes -/

/-- Whether the fields after the key of an envelope fit its version: a public key
is there exactly in version 1, and every other field wraps one element. -/
def envelopeFieldsFine (version : Nat) (fields : List Element) : Bool :=
  match splitField 1 (skipFieldsBelow 1 fields) with
  | (some field, rest) =>
      version == 1 && ((field.contentOf? (primitiveContextTag 1)).bind wholeOctets?).isSome &&
        rest.all isWrapper
  | (none, rest) => version == 0 && rest.all isWrapper

/-- Read the envelope of a private key: its algorithm and the bare form. -/
def readPrivateEnvelope? (octets : Octets) : Option (KeyAlgorithm × Octets) := do
  match ← readSequence? octets with
  | version :: algorithm :: key :: fields =>
      let version ← version.unsigned?
      let algorithm ← KeyAlgorithm.ofElement? algorithm
      let key ← key.contentOf? octetStringTag
      if envelopeFieldsFine version fields then some (algorithm, key) else none
  | _ => none

/-- Read a private key in its envelope. -/
def readPrivateKey? (octets : Octets) : Option PrivateKey := do
  match ← readPrivateEnvelope? octets with
  | (.p256, key) => (readCurveKey? key).map PrivateKey.p256
  | (.rsa, key) => (readRsaPrivateKey? key).map PrivateKey.rsa

/-- Write the envelope of a private key. -/
def writePrivateEnvelope (algorithm : KeyAlgorithm) (key : Octets) : Octets :=
  writeSequence [writeUnsigned 0, algorithm.write, Der.write octetStringTag key]

/-- Write a private key in its envelope, when it has a bare form. -/
def writePrivateKey? : PrivateKey → Option Octets
  | .p256 key => some (writePrivateEnvelope .p256 (writeCurveKey key))
  | .rsa key => do withinLimit? (writePrivateEnvelope .rsa (← writeRsaPrivateKey? key))

/-- Read the envelope of a public key: its algorithm and the bare form. -/
def readPublicEnvelope? (octets : Octets) : Option (KeyAlgorithm × Octets) := do
  match ← readSequence? octets with
  | [algorithm, key] => return (← KeyAlgorithm.ofElement? algorithm, ← key.bitString?)
  | _ => none

/-- Read a public key in its envelope. -/
def readPublicKey? (octets : Octets) : Option PublicKey := do
  match ← readPublicEnvelope? octets with
  | (.p256, key) => (P256.Point.ofOctets? key).map PublicKey.p256
  | (.rsa, key) => (readRsaPublicKey? key).map PublicKey.rsa

/-- Write a public key in its envelope. -/
def writePublicKey : PublicKey → Octets
  | .p256 point => writeSequence [KeyAlgorithm.p256.write, writeBitString point.octets]
  | .rsa key => writeSequence [KeyAlgorithm.rsa.write, writeBitString (writeRsaPublicKey key)]

end Attest.Key
