import Attest.Proofs.Key.TextForm
import Attest.Proofs.Rsa

/-!
# Admitted keys

In whatever form a key arrives, its numbers pass the checks on keys of its kind: every
reader makes a key of the numbers that it finds and hands on nothing else.
-/

namespace Attest

/-- The numbers of a public key pass the checks on a key that is read as a public one. -/
def PublicKey.Admitted : PublicKey → Prop
  | .p256 _ => True
  | .rsa key => key.check = .ok ()

/-- The numbers of a private key pass the checks. -/
def PrivateKey.Admitted : PrivateKey → Prop
  | .p256 _ => True
  | .rsa key => key.check = .ok ()

/-- The numbers of the key pass the checks on keys of its kind. -/
def KeyMaterial.Admitted : KeyMaterial → Prop
  | .privateKey key => key.Admitted
  | .publicKey key => key.Admitted
  | .symmetric _ => True

/-- The key that the numbers of a public key make. -/
def PublicKey.remade? : PublicKey → Option PublicKey
  | .p256 point => some (.p256 point)
  | .rsa key => (Rsa.PublicKey.ofNumbers key.modulus key.exponent).toOption.map .rsa

/-- The key that the numbers of a private key make. -/
def PrivateKey.remade? : PrivateKey → Option PrivateKey
  | .p256 key => some (.p256 key)
  | .rsa key =>
      (Rsa.PrivateKey.ofNumbers key.publicKey.modulus key.publicKey.exponent key.privateExponent
        key.firstFactor key.secondFactor).toOption.map .rsa

/-- An admitted key is the one that its numbers make. -/
theorem PublicKey.remade?_of_admitted {key : PublicKey} (admitted : key.Admitted) :
    key.remade? = some key := by
  cases key with
  | p256 point => rfl
  | rsa key =>
      rw [remade?, Rsa.PublicKey.ofNumbers_self admitted]
      rfl

/-- Numbers that make a key are those of an admitted key. -/
theorem PublicKey.admitted_of_remade? {key made : PublicKey} (remade : key.remade? = some made) :
    key.Admitted := by
  cases key with
  | p256 point => trivial
  | rsa key =>
      rcases Option.map_eq_some_iff.mp remade with ⟨other, made, -⟩
      rcases Rsa.PublicKey.ofNumbers_eq_ok_iff.mp (toOption_eq_some_iff.mp made) with ⟨rfl, admitted⟩
      exact admitted

theorem PrivateKey.remade?_of_admitted {key : PrivateKey} (admitted : key.Admitted) :
    key.remade? = some key := by
  cases key with
  | p256 key => rfl
  | rsa key =>
      rw [remade?, Rsa.PrivateKey.ofNumbers_self admitted]
      rfl

/-- The key material that the numbers of key material make. -/
def KeyMaterial.remade? : KeyMaterial → Option KeyMaterial
  | .privateKey key => key.remade?.map .privateKey
  | .publicKey key => key.remade?.map .publicKey
  | .symmetric secret => some (.symmetric secret)

theorem KeyMaterial.remade?_of_admitted {material : KeyMaterial} (admitted : material.Admitted) :
    material.remade? = some material := by
  cases material with
  | privateKey key =>
      rw [remade?, PrivateKey.remade?_of_admitted admitted]
      rfl
  | publicKey key =>
      rw [remade?, PublicKey.remade?_of_admitted admitted]
      rfl
  | symmetric secret => rfl

namespace Key

/-! ## Binary forms -/

theorem check_of_readRsaPublicKey? {octets : Octets} {key : Rsa.PublicKey}
    (read : readRsaPublicKey? octets = some key) : key.check = .ok () := by
  simp only [readRsaPublicKey?, Option.bind_eq_bind, Option.bind_eq_some_iff] at read
  obtain ⟨elements, -, read⟩ := read
  split at read
  · obtain ⟨modulus, -, exponent, -, made⟩ := by
      simpa only [Option.bind_eq_some_iff] using read
    exact (Rsa.PublicKey.ofNumbers_eq_ok_iff.mp (toOption_eq_some_iff.mp made)).2
  · cases read

theorem check_of_readRsaPrivateKey? {octets : Octets} {key : Rsa.PrivateKey}
    (read : readRsaPrivateKey? octets = some key) : key.check = .ok () := by
  simp only [readRsaPrivateKey?, Option.bind_eq_bind, Option.bind_eq_some_iff] at read
  obtain ⟨elements, -, numbers, -, read⟩ := read
  split at read
  · exact (Rsa.PrivateKey.ofNumbers_eq_ok_iff.mp (toOption_eq_some_iff.mp read)).2
  · cases read

theorem admitted_of_readPublicKey? {octets : Octets} {key : PublicKey}
    (read : readPublicKey? octets = some key) : key.Admitted := by
  simp only [readPublicKey?, Option.bind_eq_bind, Option.bind_eq_some_iff] at read
  obtain ⟨⟨algorithm, bare⟩, -, read⟩ := read
  cases algorithm with
  | p256 =>
      obtain ⟨point, -, rfl⟩ := Option.map_eq_some_iff.mp read
      trivial
  | rsa =>
      obtain ⟨rsaKey, made, rfl⟩ := Option.map_eq_some_iff.mp read
      exact check_of_readRsaPublicKey? made

theorem admitted_of_readPrivateKey? {octets : Octets} {key : PrivateKey}
    (read : readPrivateKey? octets = some key) : key.Admitted := by
  simp only [readPrivateKey?, Option.bind_eq_bind, Option.bind_eq_some_iff] at read
  obtain ⟨⟨algorithm, bare⟩, -, read⟩ := read
  cases algorithm with
  | p256 =>
      obtain ⟨curveKey, -, rfl⟩ := Option.map_eq_some_iff.mp read
      trivial
  | rsa =>
      obtain ⟨rsaKey, made, rfl⟩ := Option.map_eq_some_iff.mp read
      exact check_of_readRsaPrivateKey? made

/-! ## Texts -/

theorem Armoured.Label.admitted_of_read? {label : Label} {body : Octets} {material : KeyMaterial}
    (read : label.read? body = some material) : material.Admitted := by
  cases label <;> obtain ⟨key, made, rfl⟩ := Option.map_eq_some_iff.mp read
  case privateKey => exact admitted_of_readPrivateKey? made
  case curvePrivateKey => trivial
  case rsaPrivateKey => exact check_of_readRsaPrivateKey? made
  case publicKey => exact admitted_of_readPublicKey? made
  case rsaPublicKey => exact check_of_readRsaPublicKey? made

theorem Armoured.admitted_of_decode {unread text : String} {material : KeyMaterial}
    (decoded : decode unread text = .ok material) : material.Admitted := by
  obtain ⟨label, body, -, read⟩ := decode_eq_ok_iff.mp decoded
  exact Label.admitted_of_read? read

theorem Unarmoured.admitted_of_readEnvelope? {octets : Octets} {material : KeyMaterial}
    (read : readEnvelope? octets = some material) : material.Admitted := by
  rw [readEnvelope?] at read
  split at read
  · next key made =>
      cases read
      exact admitted_of_readPrivateKey? made
  · obtain ⟨key, made, rfl⟩ := Option.map_eq_some_iff.mp read
    exact admitted_of_readPublicKey? made

theorem Unarmoured.admitted_of_decode {text : String} {material : KeyMaterial}
    (decoded : decode text = .ok material) : material.Admitted := by
  obtain ⟨octets, -, read⟩ := decode_eq_ok_iff.mp decoded
  exact admitted_of_readEnvelope? read

theorem WebKey.member_eq_ok_iff {key : Table Json} {name value : String} :
    member key name = .ok value ↔ Table.find? name key = some (.string value) := by
  rw [member]
  cases found : Table.find? name key with
  | none => simp
  | some json => cases json <;> simp [Json.string?]

theorem WebKey.curvePublic?_eq_some_iff {members : List (String × Json)} {key : PublicKey} :
    curvePublic? members = some key ↔
      hasExactly ["kty", "crv", "x", "y"] members = true ∧
        ∃ point, point? members = some point ∧ .p256 point = key := by
  rw [curvePublic?]
  split
  · next exactly =>
      simp only [Option.bind_eq_bind, Option.bind_eq_some_iff, exactly, true_and, Option.pure_def,
        Option.some.injEq]
  · next other => simp [other]

theorem WebKey.curvePrivate?_eq_some_iff {members : List (String × Json)} {key : PrivateKey} :
    curvePrivate? members = some key ↔
      hasExactly ["kty", "crv", "x", "y", "d"] members = true ∧
        ∃ curveKey : P256.PrivateKey, point? members = some curveKey.point ∧
          (∃ scalar, coordinate? members "d" = some scalar ∧
            P256.PrivateKey.ofScalar? scalar = some curveKey) ∧
          .p256 curveKey = key := by
  rw [curvePrivate?]
  split
  · next exactly =>
      simp only [Option.bind_eq_bind, Option.bind_eq_some_iff]
      constructor
      · rintro ⟨point, stated, scalar, spelled, curveKey, made, agreed⟩
        split at agreed
        · next same =>
            cases agreed
            exact ⟨exactly, curveKey, same ▸ stated, ⟨scalar, spelled, made⟩, rfl⟩
        · cases agreed
      · rintro ⟨-, curveKey, stated, ⟨scalar, spelled, made⟩, rfl⟩
        exact ⟨curveKey.point, stated, scalar, spelled, curveKey, made, if_pos rfl⟩
  · next other => simp [other]

/-- A decoded curve key is private when it has a scalar, and public otherwise. -/
theorem WebKey.decodeCurve_cases {members : List (String × Json)} {key : Table Json}
    {material : KeyMaterial} (decoded : decodeCurve members key = .ok material) :
    (Table.has "d" key = true ∧ ∃ privateKey, curvePrivate? members = some privateKey ∧
      material = .privateKey privateKey) ∨
    (Table.has "d" key = false ∧ ∃ publicKey, curvePublic? members = some publicKey ∧
      material = .publicKey publicKey) := by
  simp only [decodeCurve, bind_eq_ok_iff] at decoded
  rcases decoded with ⟨curve, -, decoded⟩
  split at decoded
  · cases decoded
  · split at decoded
    · next full =>
        split at decoded
        · next privateKey found =>
            cases decoded
            exact .inl ⟨full, privateKey, found, rfl⟩
        · cases decoded
    · next bare =>
        split at decoded
        · next publicKey found =>
            cases decoded
            exact .inr ⟨Bool.eq_false_of_not_eq_true bare, publicKey, found, rfl⟩
        · cases decoded

/-- A decoded RSA key is private when it has the private exponent and both factors, and public
otherwise; its numbers are those of its members. -/
theorem WebKey.decodeRsa_cases {key : Table Json} {material : KeyMaterial}
    (decoded : decodeRsa key = .ok material) :
    ∃ modulus exponent, number key "n" = .ok modulus ∧ number key "e" = .ok exponent ∧
      (((["d", "p", "q"].all fun name => Table.has name key) = true ∧
          ∃ privateExponent firstFactor secondFactor rsaKey,
            number key "d" = .ok privateExponent ∧ number key "p" = .ok firstFactor ∧
            number key "q" = .ok secondFactor ∧
            Rsa.PrivateKey.ofNumbers modulus exponent privateExponent firstFactor secondFactor =
              .ok rsaKey ∧
            material = .privateKey (.rsa rsaKey)) ∨
        ((["d", "p", "q"].all fun name => Table.has name key) = false ∧
          ∃ rsaKey, Rsa.PublicKey.ofNumbers modulus exponent = .ok rsaKey ∧
            material = .publicKey (.rsa rsaKey))) := by
  simp only [decodeRsa, bind_eq_ok_iff] at decoded
  rcases decoded with ⟨modulus, modulusRead, exponent, exponentRead, decoded⟩
  refine ⟨modulus, exponent, modulusRead, exponentRead, ?_⟩
  split at decoded
  · next full =>
      simp only [bind_eq_ok_iff] at decoded
      rcases decoded with ⟨privateExponent, privateExponentRead, firstFactor, firstFactorRead,
        secondFactor, secondFactorRead, decoded⟩
      split at decoded
      · next rsaKey made =>
          cases decoded
          exact .inl ⟨full, privateExponent, firstFactor, secondFactor, rsaKey,
            privateExponentRead, firstFactorRead, secondFactorRead, made, rfl⟩
      · cases decoded
  · next bare =>
      split at decoded
      · next rsaKey made =>
          cases decoded
          exact .inr ⟨Bool.eq_false_of_not_eq_true bare, rsaKey, made, rfl⟩
      · cases decoded

/-- A decoded symmetric key is not empty. -/
theorem WebKey.decodeSymmetric_cases {key : Table Json} {material : KeyMaterial}
    (decoded : decodeSymmetric key = .ok material) :
    ∃ secret, secret ≠ [] ∧ material = .symmetric secret := by
  rcases bind_eq_ok_iff.mp decoded with ⟨secret, -, decoded⟩
  split at decoded
  · cases decoded
  · next nonempty =>
      cases decoded
      exact ⟨secret, nonempty, rfl⟩

/-- A web key is decoded as its type says. -/
theorem WebKey.decode_cases {text : String} {material : KeyMaterial}
    (decoded : decode text = .ok material) :
    ∃ members, object? text = some members ∧
      ((member (Table.ofEntries members) "kty" = .ok "EC" ∧
          decodeCurve members (Table.ofEntries members) = .ok material) ∨
        (member (Table.ofEntries members) "kty" = .ok "RSA" ∧
          decodeRsa (Table.ofEntries members) = .ok material) ∨
        (member (Table.ofEntries members) "kty" = .ok "oct" ∧
          decodeSymmetric (Table.ofEntries members) = .ok material)) := by
  rw [decode] at decoded
  split at decoded
  · cases decoded
  · next members object =>
      rcases bind_eq_ok_iff.mp decoded with ⟨family, typed, decoded⟩
      refine ⟨members, object, ?_⟩
      split at decoded
      · exact .inl ⟨typed, decoded⟩
      · exact .inr (.inl ⟨typed, decoded⟩)
      · exact .inr (.inr ⟨typed, decoded⟩)
      · cases decoded

theorem WebKey.admitted_of_decode {text : String} {material : KeyMaterial}
    (decoded : decode text = .ok material) : material.Admitted := by
  rcases decode_cases decoded with ⟨members, -, ⟨-, curve⟩ | ⟨-, rsa⟩ | ⟨-, symmetric⟩⟩
  · rcases decodeCurve_cases curve with ⟨-, key, found, rfl⟩ | ⟨-, key, found, rfl⟩
    · rcases curvePrivate?_eq_some_iff.mp found with ⟨-, curveKey, -, -, rfl⟩
      trivial
    · rcases curvePublic?_eq_some_iff.mp found with ⟨-, point, -, rfl⟩
      trivial
  · rcases decodeRsa_cases rsa with ⟨modulus, exponent, -, -,
      ⟨-, privateExponent, firstFactor, secondFactor, key, -, -, -, made, rfl⟩ | ⟨-, key, made, rfl⟩⟩
    · exact (Rsa.PrivateKey.ofNumbers_eq_ok_iff.mp made).2
    · exact (Rsa.PublicKey.ofNumbers_eq_ok_iff.mp made).2
  · rcases decodeSymmetric_cases symmetric with ⟨secret, -, rfl⟩
    trivial

/-- Every key that the standard forms decode is admitted. -/
theorem admitted_of_decode {text : String} {material : KeyMaterial}
    (decoded : Registry.standard.decode text = .ok material) : material.Admitted := by
  obtain ⟨form, member, decoded⟩ := (Registry.decode_eq_ok_iff fun _ => Iff.rfl).mp decoded
  rcases Registry.mem_standard_forms.mp member with rfl | rfl | rfl
  · exact Armoured.admitted_of_decode decoded
  · exact WebKey.admitted_of_decode decoded
  · exact Unarmoured.admitted_of_decode decoded

end Key

end Attest
