import Attest.Proofs.Key.RsaForms
import Attest.Proofs.Modular
import Attest.Token.HandedKey

/-!
# Private keys in the hands of a signer

What a signer is handed of a private key is read back as the same key.  A curve key is always
handed over.  The bare form of an RSA key has the inverse of the second factor modulo the first
one in it, which the checks on keys do not ask for: equal factors pass them, and have no inverse.
-/

namespace Attest

namespace Rsa.PrivateKey

variable {key : Rsa.PrivateKey} {coefficient : Nat}

theorem one_lt_firstFactor (admitted : key.check = .ok ()) : 1 < key.firstFactor :=
  (check_eq_ok_iff.mp admitted).2.1.1

/-- The number is the inverse of the second factor modulo the first one. -/
structure IsCoefficient (key : Rsa.PrivateKey) (coefficient : Nat) : Prop where
  below : coefficient < key.firstFactor
  inverts : coefficient * key.secondFactor ≡ 1 [MOD key.firstFactor]

theorem coefficient?_eq_some_iff (proper : 1 < key.firstFactor) :
    key.coefficient? = some coefficient ↔ key.IsCoefficient coefficient := by
  rw [coefficient?, inverseMod?_eq_some_iff (by omega)]
  constructor
  · rintro ⟨below, inverts⟩
    exact ⟨below, inverts⟩
  · rintro ⟨below, inverts⟩
    exact ⟨below, inverts⟩

theorem IsCoefficient.unique {other : Nat} (proper : 1 < key.firstFactor)
    (first : key.IsCoefficient coefficient) (second : key.IsCoefficient other) :
    coefficient = other := by
  rw [← coefficient?_eq_some_iff proper] at first second
  exact Option.some.inj (first.symm.trans second)

/-- Coprime factors have a coefficient, and no others do. -/
theorem exists_isCoefficient_iff (proper : 1 < key.firstFactor) :
    (∃ coefficient, key.IsCoefficient coefficient) ↔
      key.firstFactor.Coprime key.secondFactor := by
  simp only [← coefficient?_eq_some_iff proper, coefficient?]
  rw [exists_inverseMod?_iff (by omega), Nat.coprime_comm]

end Rsa.PrivateKey

namespace Key

open Der

variable {key : Rsa.PrivateKey} {coefficient : Nat}

/-- The shortcuts of a key with the given coefficient. -/
def shortcutsOf (key : Rsa.PrivateKey) (coefficient : Nat) : Shortcuts :=
  ⟨key.privateExponent % (key.firstFactor - 1), key.privateExponent % (key.secondFactor - 1),
    coefficient⟩

/-- The bare form of a private RSA key with the given coefficient, however long it is. -/
def bareForm (key : Rsa.PrivateKey) (coefficient : Nat) : Octets :=
  writeSequence ((bareNumbers key (shortcutsOf key coefficient)).map writeUnsigned)

/-- The factors of the key are coprime, and its bare form keeps the size limit with something
wrapped around it. -/
structure WritableIn (wrap : Octets → Octets) (key : Rsa.PrivateKey) : Prop where
  coprime : key.firstFactor.Coprime key.secondFactor
  fits : ∀ coefficient, key.IsCoefficient coefficient →
    (wrap (bareForm key coefficient)).length ≤ sizeLimit

/-- There is only one coefficient whose bare form can be too long. -/
theorem writableIn_iff {wrap : Octets → Octets} (proper : 1 < key.firstFactor) :
    WritableIn wrap key ↔ ∃ coefficient, key.IsCoefficient coefficient ∧
      (wrap (bareForm key coefficient)).length ≤ sizeLimit := by
  constructor
  · rintro ⟨coprime, fits⟩
    obtain ⟨coefficient, isCoefficient⟩ :=
      (Rsa.PrivateKey.exists_isCoefficient_iff proper).mpr coprime
    exact ⟨coefficient, isCoefficient, fits coefficient isCoefficient⟩
  · rintro ⟨coefficient, isCoefficient, short⟩
    refine ⟨(Rsa.PrivateKey.exists_isCoefficient_iff proper).mp ⟨coefficient, isCoefficient⟩, ?_⟩
    intro other isOther
    rwa [isOther.unique proper isCoefficient]

/-- A private RSA key is written with its coefficient, within the size limit. -/
theorem writeRsaPrivateKey?_eq_some_iff {octets : Octets} (proper : 1 < key.firstFactor) :
    writeRsaPrivateKey? key = some octets ↔
      ∃ coefficient, key.IsCoefficient coefficient ∧ bareForm key coefficient = octets ∧
        octets.length ≤ sizeLimit := by
  simp only [writeRsaPrivateKey?, Option.bind_eq_bind, Option.bind_eq_some_iff,
    Rsa.PrivateKey.coefficient?_eq_some_iff proper, withinLimit?_eq_some_iff]
  exact Iff.rfl

theorem exists_writeRsaPrivateKey?_iff (proper : 1 < key.firstFactor) :
    (∃ octets, writeRsaPrivateKey? key = some octets) ↔ WritableIn id key := by
  simp only [writeRsaPrivateKey?_eq_some_iff proper, writableIn_iff proper]
  constructor
  · rintro ⟨octets, coefficient, isCoefficient, rfl, fits⟩
    exact ⟨coefficient, isCoefficient, fits⟩
  · rintro ⟨coefficient, isCoefficient, fits⟩
    exact ⟨_, coefficient, isCoefficient, rfl, fits⟩

/-- An envelope is longer than what is in it. -/
theorem length_lt_length_writePrivateEnvelope (algorithm : KeyAlgorithm) (bare : Octets) :
    bare.length < (writePrivateEnvelope algorithm bare).length := by
  have inside := length_content_lt_length_octets ⟨octetStringTag, bare⟩
  have around := length_content_lt_length_octets
    (.sequence [.unsigned 0, .sequence algorithm.elements, ⟨octetStringTag, bare⟩])
  rw [writePrivateEnvelope_eq]
  simp only [Element.sequence, List.flatMap_cons, List.flatMap_nil, List.length_append,
    List.length_nil] at around inside ⊢
  omega

end Key

/-- An RSA key has to be writable with something wrapped around it; every curve key is. -/
def PrivateKey.WritableIn (wrap : Octets → Octets) : PrivateKey → Prop
  | .p256 _ => True
  | .rsa key => Key.WritableIn wrap key

namespace Key

open Der

theorem exists_writePrivateKey?_iff {key : PrivateKey} (admitted : key.Admitted) :
    (∃ octets, writePrivateKey? key = some octets) ↔
      key.WritableIn (writePrivateEnvelope .rsa) := by
  cases key with
  | p256 key => exact ⟨fun _ => trivial, fun _ => ⟨_, rfl⟩⟩
  | rsa key =>
      have proper := Rsa.PrivateKey.one_lt_firstFactor admitted
      simp only [writePrivateKey?, Option.bind_eq_bind, Option.bind_eq_some_iff,
        writeRsaPrivateKey?_eq_some_iff proper, withinLimit?_eq_some_iff, PrivateKey.WritableIn,
        writableIn_iff proper]
      constructor
      · rintro ⟨envelope, bare, ⟨coefficient, isCoefficient, rfl, -⟩, rfl, fits⟩
        exact ⟨coefficient, isCoefficient, fits⟩
      · rintro ⟨coefficient, isCoefficient, fits⟩
        have longer := length_lt_length_writePrivateEnvelope .rsa (bareForm key coefficient)
        exact ⟨_, _, ⟨coefficient, isCoefficient, rfl, by omega⟩, rfl, fits⟩

/-- Every number of the bare form is the private exponent or at most the modulus. -/
theorem eq_or_le_of_mem_bareNumbers (admitted : key.check = .ok ())
    (isCoefficient : key.IsCoefficient coefficient) :
    ∀ number ∈ bareNumbers key (shortcutsOf key coefficient),
      number = key.privateExponent ∨ number ≤ key.publicKey.modulus := by
  obtain ⟨exponent, ⟨firstProper, secondProper⟩, product, -, -⟩ :=
    Rsa.PrivateKey.check_eq_ok_iff.mp admitted
  have small := (Rsa.PublicKey.checkExponent_eq_ok_iff.mp exponent).1
  have first : key.firstFactor ≤ key.publicKey.modulus := by
    rw [← product]
    exact Nat.le_mul_of_pos_right _ (by omega)
  have second : key.secondFactor ≤ key.publicKey.modulus := by
    rw [← product]
    exact Nat.le_mul_of_pos_left _ (by omega)
  have firstRest : key.privateExponent % (key.firstFactor - 1) < key.firstFactor - 1 :=
    Nat.mod_lt _ (by omega)
  have secondRest : key.privateExponent % (key.secondFactor - 1) < key.secondFactor - 1 :=
    Nat.mod_lt _ (by omega)
  have below := isCoefficient.below
  simp only [bareNumbers, shortcutsOf, List.forall_mem_cons, List.not_mem_nil, false_implies,
    implies_true, and_true]
  refine ⟨.inr ?_, .inr ?_, .inr ?_, .inl trivial, .inr first, .inr second, .inr ?_, .inr ?_,
    .inr ?_⟩ <;> omega

/-- Sixteen million octets for the modulus and for the private exponent are not too long. -/
theorem writableIn_of_narrow (admitted : key.check = .ok ())
    (coprime : key.firstFactor.Coprime key.secondFactor)
    (modulus : Octets.width key.publicKey.modulus ≤ 2 ^ 24)
    (privateExponent : Octets.width key.privateExponent ≤ 2 ^ 24) :
    WritableIn id key ∧ WritableIn (writePrivateEnvelope .rsa) key := by
  have fits : ∀ coefficient, key.IsCoefficient coefficient →
      (bareForm key coefficient).length ≤ sizeLimit ∧
        (writePrivateEnvelope .rsa (bareForm key coefficient)).length ≤ sizeLimit := by
    intro coefficient isCoefficient
    have narrow : ∀ number ∈ bareNumbers key (shortcutsOf key coefficient),
        Octets.width number ≤ 2 ^ 24 := by
      intro number member
      rcases eq_or_le_of_mem_bareNumbers admitted isCoefficient number member with rfl | below
      · exact privateExponent
      · exact Nat.le_trans (Octets.width_mono below) modulus
    obtain ⟨bare, envelope, written, enveloped⟩ := exists_binary_of_narrow narrow
    obtain ⟨rfl, bareFits⟩ := withinLimit?_eq_some_iff.mp written
    obtain ⟨rfl, envelopeFits⟩ := withinLimit?_eq_some_iff.mp enveloped
    exact ⟨bareFits, envelopeFits⟩
  exact ⟨⟨coprime, fun coefficient is => (fits coefficient is).1⟩,
    ⟨coprime, fun coefficient is => (fits coefficient is).2⟩⟩

end Key

namespace Token.SigningKey

open Key

/-- What is handed over is of the kind of the key and read back as the key. -/
def Carries : SigningKey → PrivateKey → Prop
  | .curve envelope, .p256 key => readPrivateKey? envelope = some (.p256 key)
  | .rsa bare, .rsa key => readRsaPrivateKey? bare = some key
  | _, _ => False

variable {unwritten : Rsa.PrivateKey → String} {key : PrivateKey}

theorem carries_of_ofPrivate {handed : SigningKey} (admitted : key.Admitted)
    (given : ofPrivate unwritten key = .ok handed) : handed.Carries key := by
  cases key with
  | p256 key =>
      cases given
      have written : writePrivateKey? (.p256 key) =
          some (writePrivateEnvelope .p256 (writeCurveKey key)) := rfl
      exact readPrivateKey?_of_write written
  | rsa key =>
      rw [ofPrivate] at given
      split at given
      · next bare written =>
          cases given
          change readRsaPrivateKey? bare = some key
          rw [readRsaPrivateKey?_of_write written]
          exact Rsa.PrivateKey.remade?_eq_some_iff.mpr ⟨rfl, admitted⟩
      · cases given

theorem exists_ofPrivate_iff (unwritten : Rsa.PrivateKey → String) (admitted : key.Admitted) :
    (∃ handed, ofPrivate unwritten key = .ok handed) ↔ key.WritableIn id := by
  cases key with
  | p256 key => exact ⟨fun _ => trivial, fun _ => ⟨_, rfl⟩⟩
  | rsa key =>
      have proper := Rsa.PrivateKey.one_lt_firstFactor admitted
      rw [PrivateKey.WritableIn, ← exists_writeRsaPrivateKey?_iff proper, ofPrivate]
      cases writeRsaPrivateKey? key with
      | none => simp
      | some bare => simp

/-- Only RSA keys without a bare form are refused. -/
theorem ofPrivate_eq_error_iff {failure : Failure} :
    ofPrivate unwritten key = .error failure ↔
      ∃ rsaKey, key = .rsa rsaKey ∧ writeRsaPrivateKey? rsaKey = none ∧
        failure = .issuance ("Failed to encode RSA signing key: " ++ unwritten rsaKey) := by
  cases key with
  | p256 key => simp [ofPrivate]
  | rsa key =>
      simp only [ofPrivate, PrivateKey.rsa.injEq, exists_eq_left']
      cases writeRsaPrivateKey? key <;> simp [eq_comm]

/-- What becomes of a private key that is handed to a signer, which has words for an RSA key without
a bare form, or written in an envelope. -/
structure HandsOver (unwritten : Rsa.PrivateKey → String) (key : PrivateKey) : Prop where
  /-- It is handed over if its bare form can be written. -/
  handed_iff : (∃ handed, ofPrivate unwritten key = .ok handed) ↔ key.WritableIn id
  /-- What is handed over is the key. -/
  carries : ∀ handed, ofPrivate unwritten key = .ok handed → handed.Carries key
  /-- Any other key is refused as an RSA key that cannot be encoded. -/
  refused : ¬key.WritableIn id → ∃ rsaKey, key = .rsa rsaKey ∧ ofPrivate unwritten key =
    .error (.issuance ("Failed to encode RSA signing key: " ++ unwritten rsaKey))
  /-- It has texts in an envelope if this can be written. -/
  armoured_iff : (∃ text, Armoured.writePrivate? key = some text) ↔
    key.WritableIn (writePrivateEnvelope .rsa)
  unarmoured_iff : (∃ text, Unarmoured.writePrivate? key = some text) ↔
    key.WritableIn (writePrivateEnvelope .rsa)
  /-- For RSA keys that are not extremely long it only takes coprime factors. -/
  narrow : ∀ rsaKey, key = .rsa rsaKey → rsaKey.firstFactor.Coprime rsaKey.secondFactor →
    Octets.width rsaKey.publicKey.modulus ≤ 2 ^ 24 → Octets.width rsaKey.privateExponent ≤ 2 ^ 24 →
    key.WritableIn id ∧ key.WritableIn (writePrivateEnvelope .rsa)

/-- A key that was decoded from any text is handed over, and read back as itself, unless it is an
RSA key whose factors have a common divisor or that is too long. -/
theorem handsOver_of_decoded {text : String}
    (decoded : Registry.standard.decode text = .ok (.privateKey key))
    (unwritten : Rsa.PrivateKey → String) : HandsOver unwritten key := by
  have admitted : key.Admitted := admitted_of_decode decoded
  have handed := exists_ofPrivate_iff unwritten admitted
  have enveloped := exists_writePrivateKey?_iff admitted
  refine ⟨handed, fun _ given => carries_of_ofPrivate admitted given, ?_, ?_, ?_, ?_⟩
  · intro unwritable
    cases given : ofPrivate unwritten key with
    | ok signer => exact absurd (handed.mp ⟨signer, given⟩) unwritable
    | error failure =>
        obtain ⟨rsaKey, isRsa, -, rfl⟩ := ofPrivate_eq_error_iff.mp given
        exact ⟨rsaKey, isRsa, rfl⟩
  · rw [← enveloped, ← Option.isSome_iff_exists, ← Option.isSome_iff_exists,
      Armoured.writePrivate?, Option.isSome_map]
  · rw [← enveloped, ← Option.isSome_iff_exists, ← Option.isSome_iff_exists,
      Unarmoured.writePrivate?, Option.isSome_map]
  · rintro rsaKey rfl coprime modulus privateExponent
    exact writableIn_of_narrow admitted coprime modulus privateExponent

/-- A small key is handed over as a web key states it. -/
theorem handsOver_of_decoded_sample :
    let key : PrivateKey := .rsa ⟨⟨55, 3⟩, 7, 11, 5⟩
    let text := "\x7b\"kty\":\"RSA\",\"n\":\"Nw\",\"e\":\"Aw\",\"d\":\"Bw\"," ++
      "\"p\":\"Cw\",\"q\":\"BQ\"\x7d"
    Registry.standard.decode text = .ok (.privateKey key) ∧
      ∀ unwritten, ∃ handed, ofPrivate unwritten key = .ok handed ∧ handed.Carries key := by
  intro key text
  have decoded : Registry.standard.decode text = .ok (.privateKey key) :=
    toOption_eq_some_iff.mp (by decide +kernel)
  refine ⟨decoded, fun unwritten => ?_⟩
  have handsOver := handsOver_of_decoded decoded unwritten
  have writable := (handsOver.narrow _ rfl (by decide) (by decide) (by decide)).1
  obtain ⟨handed, given⟩ := handsOver.handed_iff.mpr writable
  exact ⟨handed, given, handsOver.carries handed given⟩

/-- A key with equal factors passes all checks on a web key, and is neither handed over nor written
in an envelope. -/
theorem equal_factors_not_handed_over :
    let key : PrivateKey := .rsa ⟨⟨121, 3⟩, 7, 11, 11⟩
    let text := "\x7b\"kty\":\"RSA\",\"n\":\"eQ\",\"e\":\"Aw\",\"d\":\"Bw\"," ++
      "\"p\":\"Cw\",\"q\":\"Cw\"\x7d"
    Registry.standard.decode text = .ok (.privateKey key) ∧
      (∀ unwritten handed, ofPrivate unwritten key ≠ .ok handed) ∧
      Armoured.writePrivate? key = none ∧ Unarmoured.writePrivate? key = none := by
  intro key text
  have noForm : writeRsaPrivateKey? ⟨⟨121, 3⟩, 7, 11, 11⟩ = none := by decide +kernel
  have noEnvelope : writePrivateKey? key = none := by
    rw [writePrivateKey?, noForm]
    rfl
  refine ⟨toOption_eq_some_iff.mp (by decide +kernel), ?_, ?_, ?_⟩
  · intro unwritten handed given
    rw [ofPrivate, noForm] at given
    cases given
  · rw [Armoured.writePrivate?, noEnvelope]
    rfl
  · rw [Unarmoured.writePrivate?, noEnvelope]
    rfl

end Token.SigningKey

end Attest
