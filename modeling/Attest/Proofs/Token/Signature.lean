import Attest.Proofs.Base64
import Attest.Proofs.Outcome
import Attest.Proofs.P256
import Attest.Token.HandedKey
import Attest.Token.Signature

/-!
# Keys, algorithms and signatures

A verifier keeps the key that it was handed.  A signature verifies only under a key
of the family that its algorithm is made for, and a key signs only under the algorithms of
its family; so what a key signs under an algorithm verifies under this algorithm, as soon
as the primitives of its family accept what they signed.  In a steady scheme a key signs
everything under an algorithm or nothing.
-/

namespace Attest.Token

/-! ## Handing over keys -/

namespace Components

theorem ofPublic?_p256 (point : P256.Point) :
    ofPublic? (.p256 point) =
      some (.curve (Base64.urlSafe.encode (P256.octetsOf point.x))
        (Base64.urlSafe.encode (P256.octetsOf point.y))) := by
  rw [ofPublic?, P256.coordinateOctets?_octets]
  rfl

end Components

namespace VerifyingKey

theorem octets_eq_ok_iff {component : String} {spelled : Octets} :
    octets component = .ok spelled ↔ Base64.urlSafe.decode component = .ok spelled :=
  mapError_eq_ok_iff

theorem octets_encode (spelled : Octets) :
    octets (Base64.urlSafe.encode spelled) = .ok spelled :=
  octets_eq_ok_iff.mpr (Base64.decode_encode Base64.readable_urlSafe spelled)

/-- Handing over never fails. -/
theorem handOver_eq (key : PublicKey) : handOver key = .ok (ofPublic key) := by
  rw [handOver, Components.handOver]
  cases key with
  | p256 point =>
      rw [Components.ofPublic?_p256]
      simp only [ofComponents, octets_encode]
      rfl
  | rsa key =>
      rw [Components.ofPublic?]
      simp only [ofComponents, octets_encode]
      rfl

/-- The key that a verifier keeps is the one that it was handed. -/
theorem public?_ofPublic (key : PublicKey) : (ofPublic key).public? = some key := by
  cases key with
  | p256 point =>
      rw [ofPublic, public?, P256.Point.ofOctets?_octets]
      rfl
  | rsa key =>
      rw [ofPublic, public?, Octets.toNat_ofNatNonempty, Octets.toNat_ofNatNonempty]

theorem bind_public?_handOver (key : PublicKey) :
    (handOver key).toOption.bind public? = some key := by
  rw [handOver_eq]
  exact public?_ofPublic key

end VerifyingKey

/-! ## Algorithms -/

theorem Algorithm.mem_of_rsaForm?_eq_some {algorithm : Algorithm} {padding : Rsa.Padding}
    {hash : Hash} (h : algorithm.rsaForm? = some (padding, hash)) :
    algorithm ∈ [.rs256, .rs384, .rs512, .ps256, .ps384, .ps512] := by
  cases algorithm <;> first | decide | cases h

/-- Validation allows by default every algorithm that works with some family. -/
theorem Algorithm.mem_allowedByDefault_of_worksWith {algorithm : Algorithm} {family : KeyFamily}
    (works : algorithm.worksWith family = true) : algorithm ∈ allowedByDefault := by
  cases family <;> cases algorithm <;> first | decide | cases works

/-! ## Schemes -/

namespace SignatureScheme

variable {scheme : SignatureScheme} {algorithm : Algorithm} {message signature : Octets}

/-- A signature verifies only under a key of the family that the algorithm is made for. -/
theorem verify_eq_true_iff {key : PublicKey} :
    scheme.verify algorithm key message signature = true ↔
      (∃ point, key = .p256 point ∧ algorithm = .es256 ∧
        scheme.curveVerifies point message signature = true) ∨
      (∃ rsaKey padding hash, key = .rsa rsaKey ∧ algorithm.rsaForm? = some (padding, hash) ∧
        scheme.rsaVerifies rsaKey padding hash message signature = true) := by
  cases key with
  | p256 point => simp [verify]
  | rsa rsaKey =>
      rw [verify]
      constructor
      · intro holds
        split at holds
        · next padding hash form => exact Or.inr ⟨rsaKey, padding, hash, rfl, form, holds⟩
        · cases holds
      · rintro (⟨point, otherFamily, -⟩ | ⟨_, padding, hash, same, form, holds⟩)
        · cases otherFamily
        · cases same
          rw [form]
          exact holds

/-- Whatever the key signs verifies under its public key. -/
def SoundFor (scheme : SignatureScheme) : PrivateKey → Prop
  | .p256 key => ∀ message signature, scheme.curveSign key message = some signature →
      scheme.curveVerifies key.point message signature = true
  | .rsa key => ∀ padding hash message signature,
      scheme.rsaSign key padding hash message = some signature →
      scheme.rsaVerifies key.publicKey padding hash message signature = true

theorem signed_eq_ok_iff {words : String} {found : Option Octets} :
    signed words found = .ok signature ↔ found = some signature := by
  cases found <;> simp [signed]

/-- A key signs only under an algorithm that works with its family. -/
theorem worksWith_of_sign_eq_ok {key : PrivateKey}
    (h : scheme.sign algorithm key message = .ok signature) :
    algorithm.worksWith key.family = true := by
  cases key with
  | p256 key => cases algorithm <;> first | rfl | cases h
  | rsa key => cases algorithm <;> first | rfl | cases h

/-- What a key signs under an algorithm verifies under this algorithm. -/
theorem verify_of_sign_eq_ok {key : PrivateKey} (sound : scheme.SoundFor key)
    (h : scheme.sign algorithm key message = .ok signature) :
    scheme.verify algorithm key.publicKey message signature = true := by
  cases key with
  | p256 key =>
      have curve : algorithm = .es256 := of_decide_eq_true (worksWith_of_sign_eq_ok h)
      subst curve
      exact sound message signature (signed_eq_ok_iff.mp h)
  | rsa key =>
      rw [sign] at h
      rw [PrivateKey.publicKey, verify]
      split at h
      · next padding hash form =>
          exact sound padding hash message signature (signed_eq_ok_iff.mp h)
      · cases h

/-! ### Failing to sign -/

variable {other : Octets} {fault : SigningFault} {key : PrivateKey}

/-- Whether a key yields a signature does not depend on what is to be signed. -/
structure Steady (scheme : SignatureScheme) : Prop where
  curve : ∀ key message other,
    (scheme.curveSign key message).isSome = (scheme.curveSign key other).isSome
  rsa : ∀ key padding hash message other,
    (scheme.rsaSign key padding hash message).isSome =
      (scheme.rsaSign key padding hash other).isSome

theorem signed_eq_error_iff {words : String} {found : Option Octets} :
    signed words found = .error fault ↔ fault = .key words ∧ found.isSome = false := by
  cases found <;> simp [signed, eq_comm]

/-- What keeps a key of a steady scheme from signing keeps it from signing anything. -/
theorem Steady.sign_eq_error (steady : scheme.Steady)
    (fails : scheme.sign algorithm key message = .error fault) :
    scheme.sign algorithm key other = .error fault := by
  cases key with
  | p256 key =>
      cases algorithm
      case es256 =>
        rcases signed_eq_error_iff.mp fails with ⟨rfl, unsigned⟩
        exact signed_eq_error_iff.mpr ⟨rfl, (steady.curve key other message).trans unsigned⟩
      all_goals exact fails
  | rsa key =>
      rw [sign] at fails ⊢
      split at fails
      · next padding hash form =>
          rcases signed_eq_error_iff.mp fails with ⟨rfl, unsigned⟩
          rw [signed_eq_error_iff, steady.rsa key padding hash other message]
          exact ⟨rfl, unsigned⟩
      · exact fails

end SignatureScheme

end Attest.Token
