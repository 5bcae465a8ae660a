import Attest.Proofs.Key.Admission

/-!
# Bare forms inside texts

Armour and plain base64 are wrappings: inside there is the bare form of a private key of some
algorithm, found without a look at its numbers.  What such a text decodes to is what its bare
form reads as.  All other private keys arrive as web keys.
-/

namespace Attest.Key

open Der

variable {text : String} {algorithm : KeyAlgorithm} {bare : Octets}

/-! ## Envelopes -/

/-- Read the bare form of a private key of an algorithm. -/
def readBare? : KeyAlgorithm → Octets → Option PrivateKey
  | .p256, bare => (readCurveKey? bare).map .p256
  | .rsa, bare => (readRsaPrivateKey? bare).map .rsa

theorem readPrivateKey?_eq (octets : Octets) :
    readPrivateKey? octets = (readPrivateEnvelope? octets).bind fun held =>
      readBare? held.1 held.2 := by
  rw [readPrivateKey?]
  cases readPrivateEnvelope? octets with
  | none => rfl
  | some held =>
      rcases held with ⟨_ | _, bare⟩ <;> rfl

/-- The envelope of a private key has more elements than one of a public key. -/
theorem readPublicKey?_of_readPrivateEnvelope? {octets : Octets}
    (held : readPrivateEnvelope? octets = some (algorithm, bare)) :
    readPublicKey? octets = none := by
  simp only [readPrivateEnvelope?, Option.bind_eq_bind, Option.bind_eq_some_iff] at held
  rcases held with ⟨elements, whole, held⟩
  rw [readPublicKey?, readPublicEnvelope?, whole]
  rcases elements with _ | ⟨_, _ | ⟨_, _ | ⟨_, rest⟩⟩⟩
  · cases held
  · cases held
  · cases held
  · rfl

namespace Armoured

/-- The algorithm and the bare form of the private key in a body. -/
def Label.bare? : Label → Octets → Option (KeyAlgorithm × Octets)
  | .privateKey, body => readPrivateEnvelope? body
  | .curvePrivateKey, body => some (.p256, body)
  | .rsaPrivateKey, body => some (.rsa, body)
  | .publicKey, _ => none
  | .rsaPublicKey, _ => none

end Armoured

/-! ## Plain base64 -/

namespace Unarmoured

end Unarmoured

/-! ## Texts -/

/-- A text wraps the bare form of a private key of an algorithm. -/
inductive Wraps (text : String) (algorithm : KeyAlgorithm) (bare : Octets) : Prop where
  | armour {label : Armoured.Label} {body : Octets}
      (content : Armoured.content? text = some (label, body))
      (held : label.bare? body = some (algorithm, bare))
  | base64 {octets : Octets} (content : Unarmoured.octets? text = some octets)
      (held : readPrivateEnvelope? octets = some (algorithm, bare))

end Attest.Key
