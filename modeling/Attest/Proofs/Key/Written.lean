import Attest.Proofs.Key.Der
import Attest.Proofs.Key.WebKey
import Attest.Proofs.Pem

/-!
# What becomes of written keys

A written key is recognised by its own form, whatever its numbers are.  So the standard
registry answers with what that form makes of it: the key that the numbers make, or a refusal
that is the same in every form.
-/

namespace Attest.Key

/-! ## Armoured keys -/

namespace Armoured

theorem Label.isLabel (label : Label) : Pem.IsLabel (Octets.ofText label.text) := by
  intro rest
  cases label <;> rfl

theorem Label.ascii_text (label : Label) : ∀ c ∈ label.text.toList, c.toNat < 128 := by
  cases label <;> simp [text]

theorem Label.ofText?_text (label : Label) : Label.ofText? label.text = some label := by
  cases label <;> decide

theorem label?_armour (label : Label) (lines : List Char) :
    label? (Pem.armour label.text.toList lines) = some label.text := by
  cases label <;> rfl

/-- The body under a label is read in the form that the label announces. -/
theorem decode_write (label : Label) {body : Octets} (nonempty : body ≠ []) (unread : String) :
    (decode unread (Pem.write label.text body)).toOption = label.read? body := by
  simp only [toOption_decode, content?, Pem.trim_write, label?_armour, Label.ofText?_text,
    Pem.read?_armour label.ascii_text label.isLabel nonempty, Option.bind_eq_bind,
    Option.bind_some, Option.pure_def]

theorem recognises_write (label : Label) (body : Octets) :
    recognises (Pem.write label.text body) = true := by
  apply recognises_of_label?
  rw [Pem.trim_write]
  exact label?_armour label (Pem.bodyLines body)

end Armoured

/-! ## Keys in plain base64 -/

namespace Unarmoured

/-- There are no blanks in plain base64. -/
theorem squeeze_encode (octets : Octets) :
    Text.squeeze (Base64.standard.encode octets).toList =
      (Base64.standard.encode octets).toList := by
  rw [Base64.encode, String.toList_ofList]
  exact Text.squeeze_eq_self (Pem.visible_symbols octets)

theorem decode_encode (octets : Octets) :
    (decode (Base64.standard.encode octets)).toOption = readEnvelope? octets := by
  simp only [decode, squeeze_encode, String.ofList_toList,
    Base64.decode_encode Base64.readable_standard]
  cases readEnvelope? octets <;> rfl

theorem recognises_encode {octets : Octets} (nonempty : octets ≠ []) :
    recognises (Base64.standard.encode octets) = true := by
  apply recognises_of_octets _ nonempty
  rw [squeeze_encode, String.ofList_toList]
  exact Base64.decode_encode Base64.readable_standard octets

end Unarmoured

/-! ## Web keys -/

theorem WebKey.recognises_write {members : List (String × Json)} (textual : Textual members)
    {family : Json} (typed : Table.find? "kty" members = some family) :
    recognises (Json.write (.object members)) = true := by
  rw [recognises, object?_write textual typed]
  rfl

theorem WebKey.recognises_writePublic (key : PublicKey) : recognises (writePublic key) = true := by
  cases key with
  | p256 point => exact recognises_write (textual_publicMembers (.p256 point)) rfl
  | rsa key => exact recognises_write (textual_publicMembers (.rsa key)) rfl

theorem WebKey.recognises_writePrivate (key : PrivateKey) :
    recognises (writePrivate key) = true := by
  have textual : Textual (publicMembers key.publicKey ++ privateMembers key) :=
    List.forall_mem_append.mpr
      ⟨textual_publicMembers key.publicKey, textual_privateMembers key⟩
  cases key with
  | p256 key => exact recognises_write textual rfl
  | rsa key => exact recognises_write textual rfl

/-! ## Answers -/

namespace Registry

/-- Armour is decoded as the body under its label is read. -/
theorem decode_armour (label : Armoured.Label) {body : Octets} (nonempty : body ≠ []) :
    standard.decode (Pem.write label.text body) = answer (label.read? body) := by
  rw [decode_armoured (Armoured.recognises_write label body) "",
    Armoured.decode_write label nonempty]

/-- Plain base64 is decoded as its octets are read. -/
theorem decode_base64 {octets : Octets} (nonempty : octets ≠ []) :
    standard.decode (Base64.standard.encode octets) = answer (Unarmoured.readEnvelope? octets) := by
  rw [decode_unarmoured (Unarmoured.recognises_encode nonempty), Unarmoured.decode_encode]

end Registry

/-- The texts of key material in the three forms, as far as there are such. -/
def texts : KeyMaterial → List String
  | .privateKey key =>
      (Armoured.writePrivate? key).toList ++ WebKey.writePrivate key ::
        (Unarmoured.writePrivate? key).toList
  | .publicKey key =>
      [Armoured.writePublic key, WebKey.writePublic key, Unarmoured.writePublic key]
  | .symmetric _ => []

/-- Every text of key material is answered with what its numbers make. -/
theorem decode_of_mem_texts {material : KeyMaterial} {text : String}
    (written : text ∈ texts material) :
    Registry.standard.decode text = Registry.answer material.remade? := by
  cases material with
  | privateKey key =>
      simp only [texts, List.mem_append, List.mem_cons, Option.mem_toList] at written
      rcases written with armoured | rfl | unarmoured
      · rcases Option.map_eq_some_iff.mp armoured with ⟨octets, octetsWritten, rfl⟩
        rw [Registry.decode_armour .privateKey (ne_nil_of_writePrivateKey? octetsWritten),
          Armoured.Label.read?, readPrivateKey?_of_write octetsWritten]
        rfl
      · rw [Registry.decode_webKey (WebKey.recognises_writePrivate key),
          WebKey.decode_writePrivate]
        rfl
      · rcases Option.map_eq_some_iff.mp unarmoured with ⟨octets, octetsWritten, rfl⟩
        rw [Registry.decode_base64 (ne_nil_of_writePrivateKey? octetsWritten),
          Unarmoured.readEnvelope?, readPrivateKey?_of_write octetsWritten,
          readPublicKey?_of_writePrivateKey? octetsWritten, KeyMaterial.remade?]
        cases key.remade? <;> rfl
  | publicKey key =>
      have nonempty := writePublicKey_ne_nil key
      simp only [texts, List.mem_cons, List.not_mem_nil, or_false] at written
      rcases written with rfl | rfl | rfl
      · rw [Armoured.writePublic, Registry.decode_armour .publicKey nonempty,
          Armoured.Label.read?, readPublicKey?_writePublicKey]
        rfl
      · rw [Registry.decode_webKey (WebKey.recognises_writePublic key),
          WebKey.decode_writePublic]
        rfl
      · rw [Unarmoured.writePublic, Registry.decode_base64 nonempty, Unarmoured.readEnvelope?,
          readPrivateKey?_writePublicKey, readPublicKey?_writePublicKey]
        rfl
  | symmetric secret => cases written

/-- Admitted key material is decoded from each of its texts. -/
theorem decode_text_of_admitted {material : KeyMaterial} (admitted : material.Admitted)
    {text : String} (written : text ∈ texts material) :
    Registry.standard.decode text = .ok material := by
  rw [decode_of_mem_texts written, KeyMaterial.remade?_of_admitted admitted]
  rfl

end Attest.Key
