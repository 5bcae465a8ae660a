import Attest.Proofs.Key.Written

/-!
# Public halves of private keys

The checks on a private key include all those on its public half but one: only a key that is
read as a public one has its modulus bounded.  So a private key with a long modulus is decoded
while the key that verifies its signatures is refused, in every form alike.
-/

namespace Attest

/-- The modulus of a public key, if it has one, is within the limit on public keys. -/
def PublicKey.WithinLimit : PublicKey → Prop
  | .p256 _ => True
  | .rsa key => Rsa.bitLength key.modulus ≤ Rsa.modulusLimit

namespace Key

/-- All that an admitted private key leaves open about its public half is the size. -/
theorem admitted_publicKey_iff {key : PrivateKey} (admitted : key.Admitted) :
    key.publicKey.Admitted ↔ key.publicKey.WithinLimit := by
  cases key with
  | p256 key => exact Iff.rfl
  | rsa key =>
      have exponent : key.publicKey.checkExponent = .ok () :=
        (Rsa.PrivateKey.check_eq_ok_iff.mp admitted).1
      constructor
      · intro fine
        exact (Rsa.PublicKey.check_eq_ok_iff.mp fine).1
      · intro short
        exact Rsa.PublicKey.check_eq_ok_iff.mpr ⟨short, exponent⟩

theorem remade?_eq_none {key : PublicKey} (refused : ¬key.Admitted) : key.remade? = none := by
  cases made : key.remade? with
  | none => rfl
  | some other => exact absurd (PublicKey.admitted_of_remade? made) refused

/-- A key that is not admitted is refused in all of its texts. -/
theorem decode_text_of_not_admitted {key : PublicKey} (refused : ¬key.Admitted) {text : String}
    (written : text ∈ texts (.publicKey key)) :
    Registry.standard.decode text = .error Registry.undecodable := by
  rw [decode_of_mem_texts written, KeyMaterial.remade?, remade?_eq_none refused]
  rfl

/-- The public half of a decoded private key is decoded from each of its texts if its modulus is
within the limit on public keys, and from none of them otherwise. -/
theorem decode_publicHalf {text : String} {key : PrivateKey}
    (decoded : Registry.standard.decode text = .ok (.privateKey key)) {written : String}
    (member : written ∈ texts (.publicKey key.publicKey)) :
    (key.publicKey.WithinLimit →
      Registry.standard.decode written = .ok (.publicKey key.publicKey)) ∧
    (¬key.publicKey.WithinLimit →
      Registry.standard.decode written = .error Registry.undecodable) := by
  have admitted : key.Admitted := admitted_of_decode decoded
  constructor
  · intro short
    have verifies : (KeyMaterial.publicKey key.publicKey).Admitted :=
      (admitted_publicKey_iff admitted).mpr short
    exact decode_text_of_admitted verifies member
  · intro long
    apply decode_text_of_not_admitted _ member
    intro fine
    exact long ((admitted_publicKey_iff admitted).mp fine)

/-- The public half of a small key is decoded from its armoured text. -/
theorem decode_publicHalf_sample :
    let key : PrivateKey := .rsa ⟨⟨55, 3⟩, 7, 11, 5⟩
    Registry.standard.decode (WebKey.writePrivate key) = .ok (.privateKey key) ∧
      Armoured.writePublic key.publicKey ∈ texts (.publicKey key.publicKey) ∧
      Registry.standard.decode (Armoured.writePublic key.publicKey) =
        .ok (.publicKey key.publicKey) := by
  intro key
  have admitted : (KeyMaterial.privateKey key).Admitted := by
    change Rsa.PrivateKey.check ⟨⟨55, 3⟩, 7, 11, 5⟩ = .ok ()
    decide
  have decoded : Registry.standard.decode (WebKey.writePrivate key) = .ok (.privateKey key) :=
    decode_text_of_admitted admitted (List.mem_append_right _ List.mem_cons_self)
  have member : Armoured.writePublic key.publicKey ∈ texts (.publicKey key.publicKey) :=
    List.mem_cons_self
  have short : key.publicKey.WithinLimit := by
    change Rsa.bitLength 55 ≤ Rsa.modulusLimit
    decide
  exact ⟨decoded, member, (decode_publicHalf decoded member).1 short⟩

/-- A private key with a modulus of 4484 digits, the product of two Mersenne primes. -/
def longKey : Rsa.PrivateKey where
  publicKey := ⟨(2 ^ 2203 - 1) * (2 ^ 2281 - 1), 65537⟩
  privateExponent := (1 + 33256 * ((2 ^ 2203 - 2) * (2 ^ 2281 - 2))) / 65537
  firstFactor := 2 ^ 2203 - 1
  secondFactor := 2 ^ 2281 - 1

/-- A private key with a long modulus is decoded, and its public half from none of its texts. -/
theorem publicHalf_of_long_modulus_refused :
    Registry.standard.decode (WebKey.writePrivate (.rsa longKey)) =
        .ok (.privateKey (.rsa longKey)) ∧
      ∀ written ∈ texts (.publicKey (.rsa longKey.publicKey)),
        Registry.standard.decode written = .error Registry.undecodable := by
  have admitted : (KeyMaterial.privateKey (.rsa longKey)).Admitted := by
    change longKey.check = .ok ()
    decide +kernel
  have refused : ¬(PublicKey.rsa longKey.publicKey).Admitted := by
    change ¬longKey.publicKey.check = .ok ()
    decide +kernel
  constructor
  · exact decode_text_of_admitted admitted (List.mem_append_right _ List.mem_cons_self)
  · intro written member
    exact decode_text_of_not_admitted refused member

end Key

end Attest
