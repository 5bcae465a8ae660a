import Attest.Proofs.Key.Written

/-!
# RSA keys in every form

Whether the numbers of an RSA key are admitted does not depend on the form in which they
arrive: every form finds the same numbers, and the same checks decide on them.  The binary
forms of a private key have further numbers, which have no influence.
-/

namespace Attest.Key

open Der

variable {key : Rsa.PrivateKey} {shortcuts : Shortcuts} {text : String}

/-! ## Texts -/

/-- The texts of a public RSA key, whether or not its numbers are admitted. -/
inductive RsaPublicText (key : Rsa.PublicKey) : String → Prop where
  | webKey : RsaPublicText key (WebKey.writePublic (.rsa key))
  | armour : RsaPublicText key (Armoured.writePublic (.rsa key))
  | bareArmour :
      RsaPublicText key (Pem.write Armoured.Label.rsaPublicKey.text (writeRsaPublicKey key))
  | base64 : RsaPublicText key (Unarmoured.writePublic (.rsa key))

/-- The texts of a private RSA key with the given shortcuts, whether or not its numbers are
admitted.  The binary ones exist as long as their octets keep the size limit. -/
inductive RsaPrivateText (key : Rsa.PrivateKey) (shortcuts : Shortcuts) : String → Prop where
  | webKey : RsaPrivateText key shortcuts (WebKey.writePrivate (.rsa key))
  | bareArmour {bare : Octets} (written : writeBare? key shortcuts = some bare) :
      RsaPrivateText key shortcuts (Pem.write Armoured.Label.rsaPrivateKey.text bare)
  | armour {bare envelope : Octets} (written : writeBare? key shortcuts = some bare)
      (enveloped : withinLimit? (writePrivateEnvelope .rsa bare) = some envelope) :
      RsaPrivateText key shortcuts (Pem.write Armoured.Label.privateKey.text envelope)
  | base64 {bare envelope : Octets} (written : writeBare? key shortcuts = some bare)
      (enveloped : withinLimit? (writePrivateEnvelope .rsa bare) = some envelope) :
      RsaPrivateText key shortcuts (Base64.standard.encode envelope)

/-! ## Public keys -/

theorem writeRsaPublicKey_ne_nil (key : Rsa.PublicKey) : writeRsaPublicKey key ≠ [] := by
  rw [writeRsaPublicKey_eq]
  exact Element.octets_ne_nil _

/-- Every text of a public RSA key is answered with the key that its numbers make. -/
theorem decode_rsaPublicText {key : Rsa.PublicKey} (isText : RsaPublicText key text) :
    Registry.standard.decode text = Registry.answer (KeyMaterial.publicKey (.rsa key)).remade? := by
  cases isText with
  | webKey =>
      apply decode_of_mem_texts
      exact List.mem_cons_of_mem _ List.mem_cons_self
  | armour =>
      apply decode_of_mem_texts
      exact List.mem_cons_self
  | bareArmour =>
      rw [Registry.decode_armour .rsaPublicKey (writeRsaPublicKey_ne_nil key),
        Armoured.Label.read?, readRsaPublicKey?_writeRsaPublicKey, KeyMaterial.remade?,
        PublicKey.remade?, Option.map_map]
      rfl
  | base64 =>
      apply decode_of_mem_texts
      exact List.mem_cons_of_mem _ (List.mem_cons_of_mem _ List.mem_cons_self)

/-! ## Private keys -/

theorem ne_nil_of_writeBare? {bare : Octets} (written : writeBare? key shortcuts = some bare) :
    bare ≠ [] := by
  rw [writeBare?, writeSequence_map_writeUnsigned, withinLimit?_eq_some_iff] at written
  rcases written with ⟨rfl, -⟩
  exact Element.octets_ne_nil _

theorem ne_nil_of_enveloped {bare envelope : Octets}
    (enveloped : withinLimit? (writePrivateEnvelope .rsa bare) = some envelope) :
    envelope ≠ [] := by
  rcases withinLimit?_eq_some_iff.mp enveloped with ⟨rfl, -⟩
  rw [writePrivateEnvelope_eq]
  exact Element.octets_ne_nil _

/-- A private RSA key is read in its envelope as the key that its numbers make. -/
theorem readPrivateKey?_of_enveloped {bare envelope : Octets}
    (written : writeBare? key shortcuts = some bare)
    (enveloped : withinLimit? (writePrivateEnvelope .rsa bare) = some envelope) :
    readPrivateKey? envelope = (PrivateKey.rsa key).remade? := by
  rcases withinLimit?_eq_some_iff.mp enveloped with ⟨rfl, fits⟩
  rw [readPrivateKey?, readPrivateEnvelope?_write fits]
  simp only [Option.bind_eq_bind, Option.bind_some, readRsaPrivateKey?_of_writeBare? written]
  rfl

/-- Every text of a private RSA key is answered with the key that its numbers make. -/
theorem decode_rsaPrivateText (isText : RsaPrivateText key shortcuts text) :
    Registry.standard.decode text =
      Registry.answer (KeyMaterial.privateKey (.rsa key)).remade? := by
  cases isText with
  | webKey =>
      apply decode_of_mem_texts
      exact List.mem_append_right _ List.mem_cons_self
  | bareArmour written =>
      rw [Registry.decode_armour .rsaPrivateKey (ne_nil_of_writeBare? written),
        Armoured.Label.read?, readRsaPrivateKey?_of_writeBare? written, KeyMaterial.remade?,
        PrivateKey.remade?, Option.map_map]
      rfl
  | armour written enveloped =>
      rw [Registry.decode_armour .privateKey (ne_nil_of_enveloped enveloped),
        Armoured.Label.read?, readPrivateKey?_of_enveloped written enveloped]
      rfl
  | base64 written enveloped =>
      rcases withinLimit?_eq_some_iff.mp enveloped with ⟨rfl, fits⟩
      rw [Registry.decode_base64 (ne_nil_of_enveloped enveloped), Unarmoured.readEnvelope?,
        readPrivateKey?_of_enveloped written enveloped, readPublicKey?_privateEnvelope fits,
        KeyMaterial.remade?]
      cases (PrivateKey.rsa key).remade? <;> rfl

/-! ## Size -/

theorem length_flatMap_unsigned_le {numbers : List Nat} {k : Nat}
    (narrow : ∀ number ∈ numbers, Octets.width number ≤ k) (small : k < sizeLimit) :
    ((numbers.map Element.unsigned).flatMap Element.octets).length ≤
      numbers.length * (k + 7) := by
  induction numbers with
  | nil => exact Nat.zero_le _
  | cons number rest ih =>
      have first := length_unsigned_le (narrow number List.mem_cons_self) small
      have others := ih fun other member => narrow other (List.mem_cons_of_mem _ member)
      rw [List.map_cons, List.flatMap_cons, List.length_append, List.length_cons, Nat.succ_mul]
      omega

/-- Numbers of up to sixteen million octets each have binary texts. -/
theorem exists_binary_of_narrow
    (narrow : ∀ number ∈ bareNumbers key shortcuts, Octets.width number ≤ 2 ^ 24) :
    ∃ bare envelope, writeBare? key shortcuts = some bare ∧
      withinLimit? (writePrivateEnvelope .rsa bare) = some envelope := by
  have content := length_flatMap_unsigned_le narrow (by decide)
  have count : (bareNumbers key shortcuts).length = 9 := rfl
  have short : (writeSequence ((bareNumbers key shortcuts).map writeUnsigned)).length ≤
      9 * (2 ^ 24 + 7) + 6 := by
    rw [writeSequence_map_writeUnsigned]
    rw [count] at content
    exact length_octets_le content (by decide)
  refine ⟨_, _, withinLimit?_eq_some_iff.mpr ⟨rfl, ?_⟩, withinLimit?_eq_some_iff.mpr ⟨rfl, ?_⟩⟩
  · exact Nat.le_trans short (by decide)
  · exact Nat.le_trans (length_writePrivateEnvelope_le short (by decide)) (by decide)

/-! ## The same outcome in every form -/

/-- The numbers of an RSA key have one outcome in all of its texts, which is the one of the
checks; the shortcuts of a private key do not matter. -/
theorem rsa_keys_same_in_every_form :
    (∀ (modulus exponent : Nat) (text : String), RsaPublicText ⟨modulus, exponent⟩ text →
      Registry.standard.decode text =
        Registry.answer ((Rsa.PublicKey.ofNumbers modulus exponent).toOption.map
          fun key => .publicKey (.rsa key))) ∧
    (∀ (modulus exponent privateExponent firstFactor secondFactor : Nat) (shortcuts : Shortcuts),
      let key : Rsa.PrivateKey :=
        ⟨⟨modulus, exponent⟩, privateExponent, firstFactor, secondFactor⟩
      (∀ text : String, RsaPrivateText key shortcuts text →
        Registry.standard.decode text =
          Registry.answer ((Rsa.PrivateKey.ofNumbers modulus exponent privateExponent firstFactor
            secondFactor).toOption.map fun key => .privateKey (.rsa key))) ∧
      ((∀ number ∈ bareNumbers key shortcuts, Octets.width number ≤ 2 ^ 24) →
        ∃ bare envelope, writeBare? key shortcuts = some bare ∧
          withinLimit? (writePrivateEnvelope .rsa bare) = some envelope)) := by
  constructor
  · intro modulus exponent text isText
    rw [decode_rsaPublicText isText, KeyMaterial.remade?, PublicKey.remade?, Option.map_map]
    rfl
  · intro modulus exponent privateExponent firstFactor secondFactor shortcuts key
    constructor
    · intro text isText
      rw [decode_rsaPrivateText isText, KeyMaterial.remade?, PrivateKey.remade?, Option.map_map]
      rfl
    · exact exists_binary_of_narrow

/-- A small key is admitted as a web key and, with wrong shortcuts, in its envelope; its public
half is admitted, too. -/
theorem rsa_keys_same_in_every_form_sample :
    let key : Rsa.PrivateKey := ⟨⟨55, 3⟩, 7, 11, 5⟩
    Registry.standard.decode (WebKey.writePrivate (.rsa key)) = .ok (.privateKey (.rsa key)) ∧
    (∃ bare envelope, writeBare? key ⟨1, 2, 0⟩ = some bare ∧
      withinLimit? (writePrivateEnvelope .rsa bare) = some envelope ∧
      Registry.standard.decode (Base64.standard.encode envelope) =
        .ok (.privateKey (.rsa key))) ∧
    Registry.standard.decode (Armoured.writePublic (.rsa key.publicKey)) =
      .ok (.publicKey (.rsa key.publicKey)) := by
  intro key
  rcases rsa_keys_same_in_every_form.2 55 3 7 11 5 ⟨1, 2, 0⟩ with ⟨same, exist⟩
  rcases exist (by decide) with ⟨bare, envelope, written, enveloped⟩
  refine ⟨same _ .webKey, ⟨bare, envelope, written, enveloped, ?_⟩, ?_⟩
  · exact same _ (.base64 written enveloped)
  · exact rsa_keys_same_in_every_form.1 55 3 _ .armour

end Attest.Key
