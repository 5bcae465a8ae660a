import Attest.Modular

/-!
# RSA keys

A public key is a modulus and an exponent; a private key adds the private
exponent and the two factors, in the order in which they were given.  Keys are
admitted after checks on these numbers, in a fixed order; whether the factors are
prime is not checked.
-/

namespace Attest.Rsa

/-- A modulus and a public exponent. -/
structure PublicKey where
  modulus : Nat
  exponent : Nat
  deriving DecidableEq, Repr

/-- A public key with its private exponent and the factors of the modulus. -/
structure PrivateKey where
  publicKey : PublicKey
  privateExponent : Nat
  firstFactor : Nat
  secondFactor : Nat
  deriving DecidableEq, Repr

/-- Why the numbers of a key are refused. -/
inductive Fault where
  | modulusTooLarge
  | exponentTooLarge
  | exponentTooSmall
  | invalidModulus
  | invalidExponent
  | invalidFactor
  deriving DecidableEq, Repr

/-- The text of a fault. -/
def Fault.message : Fault → String
  | .modulusTooLarge => "modulus too large"
  | .exponentTooLarge => "public exponent too large"
  | .exponentTooSmall => "public exponent too small"
  | .invalidModulus => "invalid modulus"
  | .invalidExponent => "invalid exponent"
  | .invalidFactor => "invalid prime value"

/-- The number of binary digits. -/
def bitLength (n : Nat) : Nat :=
  if n = 0 then 0 else n.log2 + 1

/-- The greatest size of the modulus of a key that is read as a public key. -/
def modulusLimit : Nat := 4096

/-- The greatest public exponent. -/
def exponentLimit : Nat := 0x1FFFFFFFF

/-- The checks on a public exponent and its modulus. -/
def PublicKey.checkExponent (key : PublicKey) : Except Fault Unit :=
  if 64 < bitLength key.exponent then .error .exponentTooLarge
  else if key.modulus ≤ key.exponent ∨ key.modulus % 2 = 0 then .error .invalidModulus
  else if key.exponent % 2 = 0 then .error .invalidExponent
  else if key.exponent < 2 then .error .exponentTooSmall
  else if exponentLimit < key.exponent then .error .exponentTooLarge
  else .ok ()

/-- The checks on a key that is read as a public key. -/
def PublicKey.check (key : PublicKey) : Except Fault Unit :=
  if modulusLimit < bitLength key.modulus then .error .modulusTooLarge
  else key.checkExponent

/-- Whether the private exponent undoes the public one modulo a factor less one. -/
def PrivateKey.undoneAt (key : PrivateKey) (factor : Nat) : Bool :=
  key.privateExponent * key.publicKey.exponent % (factor - 1) = 1

/-- The checks on a private key; its modulus may have any size. -/
def PrivateKey.check (key : PrivateKey) : Except Fault Unit := do
  key.publicKey.checkExponent
  if key.firstFactor ≤ 1 ∨ key.secondFactor ≤ 1 then throw .invalidFactor
  if key.firstFactor * key.secondFactor ≠ key.publicKey.modulus then throw .invalidModulus
  if !key.undoneAt key.firstFactor || !key.undoneAt key.secondFactor then
    throw .invalidExponent

/-- The public key of a modulus and an exponent, if it passes the checks. -/
def PublicKey.ofNumbers (modulus exponent : Nat) : Except Fault PublicKey := do
  let key : PublicKey := ⟨modulus, exponent⟩
  key.check
  return key

/-- The private key of the given numbers, if it passes the checks. -/
def PrivateKey.ofNumbers (modulus exponent privateExponent firstFactor secondFactor : Nat) :
    Except Fault PrivateKey := do
  let key : PrivateKey := ⟨⟨modulus, exponent⟩, privateExponent, firstFactor, secondFactor⟩
  key.check
  return key

/-- The inverse of the second factor modulo the first, which the written form of a
private key contains. -/
def PrivateKey.coefficient? (key : PrivateKey) : Option Nat :=
  inverseMod? key.firstFactor key.secondFactor

end Attest.Rsa
