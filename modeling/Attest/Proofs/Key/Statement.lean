import Attest.Proofs.Key.BareForm
import Attest.Proofs.Key.Written

/-!
# What texts state of private keys

A text states the numbers of a private key before anything is checked: a bare form by its
elements, a web key by its members.  Whatever the form of the text, it is decoded to the key that
it states or refused; a text that states an RSA key is decoded exactly when its numbers make one.
-/

namespace Attest.Key

open Der

/-! ## Statements -/

/-- A public point as a text states it. -/
inductive StatedPoint where
  | spelled (octets : Octets)
  | coordinates (x y : Nat)

/-- What a text states of a private key: a scalar and possibly its point, or the numbers of an
RSA key. -/
inductive Statement where
  | p256 (scalar : Nat) (point : Option StatedPoint)
  | rsa (key : Rsa.PrivateKey)

/-- The first field with the number of a public point. -/
def statedField? (fields : List Element) : Option Element :=
  fields.find? fun field => isContextTag field.tag && contextNumber field.tag == 1

/-- The point that a field of a bare form states. -/
def fieldPoint? (field : Element) : Option StatedPoint :=
  ((wrapped? 1 field).bind Element.bitString?).map .spelled

/-- What the bare form of a private curve key states. -/
def statedCurveKey? (octets : Octets) : Option Statement := do
  match ← readSequence? octets with
  | _ :: scalar :: fields =>
      let scalar ← scalar.contentOf? octetStringTag
      return .p256 (Octets.toNat scalar) ((statedField? fields).bind fieldPoint?)
  | _ => none

/-- What a bare form states. -/
def statedBare? : KeyAlgorithm → Octets → Option Statement
  | .p256, bare => statedCurveKey? bare
  | .rsa, bare => (statedRsaKey? bare).map .rsa

namespace WebKey

variable {members : List (String × Json)} {key : Table Json}

/-- What a curve key states; its numbers may have any width. -/
def statedCurve? (key : Table Json) : Option Statement := do
  let scalar ← (number key "d").toOption
  let point := (number key "x").toOption.bind fun x =>
    (number key "y").toOption.map fun y => .coordinates x y
  return .p256 scalar point

/-- What an RSA key states. -/
def statedRsa? (key : Table Json) : Option Statement := do
  let modulus ← (number key "n").toOption
  let exponent ← (number key "e").toOption
  let privateExponent ← (number key "d").toOption
  let firstFactor ← (number key "p").toOption
  let secondFactor ← (number key "q").toOption
  return .rsa ⟨⟨modulus, exponent⟩, privateExponent, firstFactor, secondFactor⟩

/-- What a web key states of a private key. -/
def stated? (key : Table Json) : Option Statement :=
  match (member key "kty").toOption with
  | some "EC" => statedCurve? key
  | some "RSA" => statedRsa? key
  | _ => none

end WebKey

/-! ## Texts -/

/-- A text states the numbers of a private key, in a bare form or in a web key. -/
inductive States (text : String) : Statement → Prop where
  | bare {algorithm : KeyAlgorithm} {bare : Octets} {statement : Statement}
      (wraps : Wraps text algorithm bare) (stated : statedBare? algorithm bare = some statement) :
      States text statement
  | webKey {members : List (String × Json)} {statement : Statement}
      (object : WebKey.object? text = some members)
      (stated : WebKey.stated? (Table.ofEntries members) = some statement) :
      States text statement

variable {text : String}

end Attest.Key
