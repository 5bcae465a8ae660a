import Attest.Proofs.Key.Resolver
import Attest.Proofs.Key.Written
import Attest.Proofs.Token.Lifetime
import Attest.Proofs.Vault

/-!
# Rotating the signing key

A deployed issuer looks its signing key up whenever it issues: in a vault, and in a configuration
where the vault holds nothing under the name of the key.  So a token is signed with the key that is
there at the moment, and the history of the vault does not matter beyond what it has left under this
one name.  From vaults that were left with the same secret, tokens of one instant for the same claims
differ in their identifiers and in their signatures only, and the signatures verify under one key.
-/

namespace Attest.Token

/-! ## Drafts of issued tokens -/

/-- The signature of a token verifies under a key with the algorithm that its header names. -/
def Compact.VerifiesUnder (token : Compact) (scheme : SignatureScheme) (key : PublicKey) : Prop :=
  ∃ header signature, token.header? = some header ∧ token.signature? = some signature ∧
    scheme.verify header.algorithm key token.signedOctets signature = true

namespace Issuer

variable {key : PrivateKey} {issued expires : Instant} {random : Octets} {keyId audience : String}
  {caller : List (String × Json)}

/-- The draft of an issued token. -/
def draft (key : PrivateKey) (issued expires : Instant) (random : Octets) (keyId : String)
    (caller : List (String × Json)) (audience : String) : Draft :=
  Draft.decorated key (decorations issued expires random keyId caller audience)

theorem header_draft :
    (draft key issued expires random keyId caller audience).header =
      .naming (Algorithm.preferred key.family) (some "JWT") (some keyId) :=
  rfl

/-- The claims of an issued token without its identifier. -/
def sharedMembers (issued expires : Instant) (caller : List (String × Json)) (audience : String) :
    Table Json :=
  Table.insertAll (Table.ofEntries caller)
    [("iat", .int issued.seconds), ("exp", .int expires.seconds), ("aud", .string audience)]

theorem claims_draft :
    (draft key issued expires random keyId caller audience).claims =
      Table.insert "jti" (.string (Uuid.text random))
        (sharedMembers issued expires caller audience) :=
  rfl

/-- The segments of a token show nothing of the random octets but the identifier. -/
theorem segments_draft {scheme : SignatureScheme} {token : Compact}
    (signed : (draft key issued expires random keyId caller audience).sign scheme key = .ok token) :
    token.header = Compact.segment (.object
        (Header.naming (Algorithm.preferred key.family) (some "JWT") (some keyId)).members) ∧
      token.payload = Compact.segment (.object (Table.insert "jti" (.string (Uuid.text random))
        (sharedMembers issued expires caller audience))) := by
  rcases Draft.sign_eq_ok_iff.mp signed with ⟨signature, rfl, -⟩
  rw [← claims_draft, ← header_draft]
  exact ⟨rfl, rfl⟩

/-- Other random octets do not make signing fail. -/
theorem sign_draft_eq_error {scheme : SignatureScheme} {failure : Failure} (steady : scheme.Steady)
    (fails : (draft key issued expires random keyId caller audience).sign scheme key =
      .error failure) (otherRandom : Octets) :
    (draft key issued expires otherRandom keyId caller audience).sign scheme key =
      .error failure := by
  rcases Draft.sign_eq_error_iff.mp fails with ⟨fault, rfl, refused⟩
  refine Draft.sign_eq_error_iff.mpr ⟨fault, rfl, ?_⟩
  rw [header_draft] at refused ⊢
  exact steady.sign_eq_error refused

/-- A signed draft verifies under the key that signed it. -/
theorem verifiesUnder_draft {scheme : SignatureScheme} {token : Compact}
    (sound : scheme.SoundFor key)
    (signed : (draft key issued expires random keyId caller audience).sign scheme key = .ok token) :
    token.VerifiesUnder scheme key.publicKey := by
  rcases Draft.sign_eq_ok_iff.mp signed with ⟨signature, rfl, yielded⟩
  have verified := SignatureScheme.verify_of_sign_eq_ok sound yielded
  refine ⟨(draft key issued expires random keyId caller audience).header, signature, ?_,
    Compact.signature?_withSignature _ _, verified⟩
  rw [header_draft]
  exact Compact.header?_of_naming rfl

end Issuer

/-! ## Deployed issuers -/

/-- An issuer whose signing key is looked up by its name in a vault, else in a configuration. -/
structure Deployment where
  issuer : Issuer
  configuration : Key.Configuration
  registry : Key.Registry
  /-- The name of the signing key. -/
  keyName : String
  /-- The identifier of the signing key. -/
  keyId : Option String

namespace Deployment

variable {deployment : Deployment} {vault other : Vault} {secret : Option String}
  {now : Instant} {random otherRandom : Octets} {claims : List (String × Json)} {audience : String}
  {token otherToken : Compact} {key : PrivateKey}

/-- The signing key, or why there is none. -/
def signingKey (deployment : Deployment) (vault : Vault) : Outcome PrivateKey :=
  Key.PrivateResolver.ofSource (Key.Source.ofVault vault) deployment.configuration
    deployment.registry deployment.keyName

/-- Issue a token while the vault holds what it holds. -/
def issue (deployment : Deployment) (vault : Vault) (now : Instant) (random : Octets)
    (claims : List (String × Json)) (audience : String) : Outcome Compact :=
  deployment.issuer.issue
    { signingKey := deployment.signingKey vault, keyId := deployment.keyId, now, random }
    claims audience

theorem issue_of_supplied {keyId : String} {expires : Instant}
    (supplied : deployment.signingKey vault = .ok key) (named : deployment.keyId = some keyId)
    (later : now.add? deployment.issuer.lifetime = some expires) :
    deployment.issue vault now random claims audience =
      generate deployment.issuer.scheme key
        (Issuer.decorations now expires random keyId claims audience) :=
  Issuer.issue_of_supplied supplied named later claims audience

/-- The text of the signing key when the vault holds a secret under its name or holds none. -/
def text? (deployment : Deployment) (secret : Option String) : Option String :=
  secret.or (deployment.configuration deployment.keyName)

/-! ## The signing key -/

theorem supplies_iff {text : String} (held : vault.secret? deployment.keyName = secret) :
    Key.PrivateResolver.Supplies (Key.Source.ofVault vault) deployment.configuration
      deployment.keyName text ↔ deployment.text? secret = some text := by
  rw [← Key.PrivateResolver.textOf_eq_ok_iff, Key.PrivateResolver.textOf, Key.Source.ofVault, held]
  cases secret with
  | some stored => simp [text?]
  | none => cases configured : deployment.configuration deployment.keyName <;> simp [text?, configured]

theorem signingKey_eq_ok_iff (held : vault.secret? deployment.keyName = secret) :
    deployment.signingKey vault = .ok key ↔
      ∃ text, deployment.text? secret = some text ∧
        deployment.registry.decode text = .ok (.privateKey key) := by
  rw [signingKey, Key.PrivateResolver.ofSource_eq_ok_iff]
  exact exists_congr fun text => and_congr_left fun _ => supplies_iff held

/-- Only what the vault holds under the name of the key has a say. -/
theorem signingKey_congr
    (same : vault.secret? deployment.keyName = other.secret? deployment.keyName) :
    deployment.signingKey vault = deployment.signingKey other := by
  have sources : Key.Source.ofVault vault deployment.keyName =
      Key.Source.ofVault other deployment.keyName := by
    rw [Key.Source.ofVault, Key.Source.ofVault, same]
  rw [signingKey, signingKey, Key.PrivateResolver.ofSource, Key.PrivateResolver.ofSource,
    Key.PrivateResolver.textOf, Key.PrivateResolver.textOf, sources]

/-! ## One vault -/

/-- A deployed issuer signs with the key that the text of the moment is decoded to: the secret that
the vault holds, or the text of the configuration when it holds none. -/
structure SignsWith (deployment : Deployment) (secret : Option String) (vault : Vault) : Prop where
  /-- What a token is issued from: the key of the text, an identifier of the key, an end within the
  calendar, and a signature of this key. -/
  issued_iff : ∀ now random claims audience token,
    deployment.issue vault now random claims audience = .ok token ↔
      ∃ text key keyId expires signature,
        deployment.text? secret = some text ∧
        deployment.registry.decode text = .ok (.privateKey key) ∧
        deployment.keyId = some keyId ∧
        now.add? deployment.issuer.lifetime = some expires ∧
        (∃ handed, SigningKey.ofPrivate deployment.issuer.scheme.words.unwritten key = .ok handed) ∧
        let draft := Issuer.draft key now expires random keyId claims audience
        let unsigned := Compact.unsigned draft.header draft.claims
        token = unsigned.withSignature signature ∧
        deployment.issuer.scheme.sign draft.header.algorithm key unsigned.signedOctets =
          .ok signature
  /-- Without a text, or with one that is not decoded to a private key, nothing is issued. -/
  refused : (∀ text, deployment.text? secret = some text →
      ∀ key, deployment.registry.decode text ≠ .ok (.privateKey key)) →
    ∀ now random claims audience, ∃ message,
      deployment.issue vault now random claims audience = .error (.issuance message)

theorem signsWith_of_held (held : vault.secret? deployment.keyName = secret) :
    deployment.SignsWith secret vault := by
  constructor
  case issued_iff =>
    intro now random claims audience token
    constructor
    · intro issued
      rcases Issuer.generate_of_issue_eq_ok issued with
        ⟨key, keyId, expires, supplied, named, later, generated⟩
      rcases (signingKey_eq_ok_iff held).mp supplied with ⟨text, current, decoded⟩
      rcases generate_eq_ok_iff.mp generated with ⟨handed, signed⟩
      rcases Draft.sign_eq_ok_iff.mp signed with ⟨signature, made, signed⟩
      exact ⟨text, key, keyId, expires, signature, current, decoded, named, later, handed, made,
        signed⟩
    · rintro ⟨text, key, keyId, expires, signature, current, decoded, named, later, handed, made,
        signed⟩
      have supplied := (signingKey_eq_ok_iff held).mpr ⟨text, current, decoded⟩
      rw [issue_of_supplied supplied named later]
      exact generate_eq_ok_iff.mpr ⟨handed, Draft.sign_eq_ok_iff.mpr ⟨signature, made, signed⟩⟩
  case refused =>
    intro unusable now random claims audience
    cases supplied : deployment.signingKey vault with
    | error cause =>
        rw [issue, Issuer.issue, supplied]
        exact ⟨_, rfl⟩
    | ok key =>
        rcases (signingKey_eq_ok_iff held).mp supplied with ⟨text, current, decoded⟩
        exact absurd decoded (unusable text current key)

/-! ## Two vaults -/

/-- A deployed issuer makes no difference between two vaults. -/
structure Alike (deployment : Deployment) (vault other : Vault) : Prop where
  /-- With the same random octets it gives the same answer. -/
  answer : ∀ now random claims audience,
    deployment.issue vault now random claims audience =
      deployment.issue other now random claims audience
  /-- With other random octets too it fails with both or with none, in the same way. -/
  failure_iff : deployment.issuer.scheme.Steady →
    ∀ now random otherRandom claims audience failure,
      deployment.issue vault now random claims audience = .error failure ↔
        deployment.issue other now otherRandom claims audience = .error failure
  /-- Its tokens have the same header and the same claims but for their identifiers, and verify
  under the same key. -/
  tokens : ∀ now random otherRandom claims audience token otherToken,
    deployment.issue vault now random claims audience = .ok token →
    deployment.issue other now otherRandom claims audience = .ok otherToken →
      token.header = otherToken.header ∧
      (∃ members, token.payload =
          Compact.segment (.object (Table.insert "jti" (.string (Uuid.text random)) members)) ∧
        otherToken.payload =
          Compact.segment (.object (Table.insert "jti" (.string (Uuid.text otherRandom)) members))) ∧
      ∃ key, deployment.signingKey vault = .ok key ∧ (deployment.issuer.scheme.SoundFor key →
        token.VerifiesUnder deployment.issuer.scheme key.publicKey ∧
          otherToken.VerifiesUnder deployment.issuer.scheme key.publicKey)

/-- Other random octets do not make an issuer fail. -/
theorem issue_eq_error_of_steady (steady : deployment.issuer.scheme.Steady) {failure : Failure}
    (same : deployment.signingKey vault = deployment.signingKey other)
    (fails : deployment.issue vault now random claims audience = .error failure) :
    deployment.issue other now otherRandom claims audience = .error failure := by
  apply Issuer.issue_eq_error_iff.mpr
  cases Issuer.issue_eq_error_iff.mp fails with
  | key missing => exact .key (same.symm.trans missing)
  | keyId supplied missing => exact .keyId (same.symm.trans supplied) missing
  | lifetime supplied named beyond => exact .lifetime (same.symm.trans supplied) named beyond
  | @generating key keyId expires _ supplied named later fails =>
      refine .generating (same.symm.trans supplied) named later (generate_eq_error_iff.mpr ?_)
      rcases generate_eq_error_iff.mp fails with refused | ⟨handed, unsigned⟩
      · exact .inl refused
      · exact .inr ⟨handed, Issuer.sign_draft_eq_error steady unsigned otherRandom⟩

theorem alike_of_same (same : vault.secret? deployment.keyName = other.secret? deployment.keyName) :
    deployment.Alike vault other := by
  have keys := signingKey_congr same
  constructor
  case answer =>
    intro now random claims audience
    rw [issue, issue, keys]
  case failure_iff =>
    intro steady now random otherRandom claims audience failure
    exact ⟨issue_eq_error_of_steady steady keys, issue_eq_error_of_steady steady keys.symm⟩
  case tokens =>
    intro now random otherRandom claims audience token otherToken issued otherIssued
    rcases Issuer.generate_of_issue_eq_ok issued with
      ⟨key, keyId, expires, supplied, named, later, generated⟩
    have otherGenerated := (issue_of_supplied (keys.symm.trans supplied) named later).symm.trans
      otherIssued
    have signed := (generate_eq_ok_iff.mp generated).2
    have otherSigned := (generate_eq_ok_iff.mp otherGenerated).2
    rcases Issuer.segments_draft signed with ⟨header, payload⟩
    rcases Issuer.segments_draft otherSigned with ⟨otherHeader, otherPayload⟩
    refine ⟨header.trans otherHeader.symm, ⟨_, payload, otherPayload⟩, key, supplied, ?_⟩
    intro sound
    exact ⟨Issuer.verifiesUnder_draft sound signed, Issuer.verifiesUnder_draft sound otherSigned⟩

/-! ## Histories -/

/-- After any history a deployed issuer signs with what the history has left under the name of its
key, and what else the history did makes no difference. -/
theorem rotation_takes_effect (deployment : Deployment) (secrets : List (String × String))
    (history : List Vault.Change) :
    let before (secrets : List (String × String)) :=
      (Vault.ofEntries secrets).secret? deployment.keyName
    let vault := (Vault.ofEntries secrets).run history
    deployment.SignsWith (Vault.leftBy history deployment.keyName (before secrets)) vault ∧
      ∀ (otherSecrets : List (String × String)) (otherHistory : List Vault.Change),
        Vault.leftBy history deployment.keyName (before secrets) =
          Vault.leftBy otherHistory deployment.keyName (before otherSecrets) →
        deployment.Alike vault ((Vault.ofEntries otherSecrets).run otherHistory) := by
  intro before vault
  have held : ∀ (secrets : List (String × String)) (history : List Vault.Change),
      ((Vault.ofEntries secrets).run history).secret? deployment.keyName =
        Vault.leftBy history deployment.keyName (before secrets) := fun secrets history =>
    Vault.secret?_run (Vault.nodup_ofEntries secrets) history deployment.keyName
  refine ⟨signsWith_of_held (held secrets history), fun otherSecrets otherHistory same => ?_⟩
  exact alike_of_same ((held secrets history).trans (same.trans (held otherSecrets otherHistory).symm))

end Deployment

namespace Sample

/-- An issuer whose configuration has the key with the scalar one as its signing key. -/
def deployment : Deployment where
  issuer := ⟨Duration.fiveMinutes, schemeOf issuedDraft issuedSignature⟩
  configuration := fun name =>
    if name = "signing-key" then some (Key.WebKey.writePrivate (.p256 key)) else none
  registry := Key.Registry.standard
  keyName := "signing-key"
  keyId := some "k"

theorem decode_writePrivate :
    Key.Registry.standard.decode (Key.WebKey.writePrivate (.p256 key)) =
      .ok (.privateKey (.p256 key)) := by
  have admitted : KeyMaterial.Admitted (.privateKey (.p256 key)) := trivial
  exact Key.decode_text_of_admitted admitted (by simp [Key.texts])

theorem text?_none : deployment.text? none = some (Key.WebKey.writePrivate (.p256 key)) := by
  simp [Deployment.text?, deployment]

theorem later_issued :
    Instant.epoch.add? Duration.fiveMinutes = some ⟨300 * nanosPerSecond, by decide⟩ :=
  Instant.ofNanoseconds?_eq_some_iff.mpr rfl

end Sample

namespace Deployment

/-- A corrupt secret keeps the key of the configuration from signing, until it is deleted. -/
theorem rotation_takes_effect_sample :
    let corrupted := (Vault.ofEntries []).run [.store "signing-key" "garbage"]
    let cleared := (Vault.ofEntries []).run [.store "signing-key" "garbage", .delete "signing-key"]
    let issue (vault : Vault) := Sample.deployment.issue vault Instant.epoch
      Sample.supplies.random [("sub", .string "alice")] "bob"
    (∃ message, issue corrupted = .error (.issuance message)) ∧
      ∃ token, issue cleared = .ok token ∧
        token.VerifiesUnder Sample.deployment.issuer.scheme (.p256 P256.generator) := by
  intro corrupted cleared issue
  constructor
  · have signs := (rotation_takes_effect Sample.deployment [] [.store "signing-key" "garbage"]).1
    apply signs.refused
    rintro text ⟨⟩ key decoded
    have undecoded : (Sample.deployment.registry.decode "garbage").toOption = none := by
      decide +kernel
    rw [toOption_eq_some_iff.mpr decoded] at undecoded
    cases undecoded
  · rcases rotation_takes_effect Sample.deployment []
      [.store "signing-key" "garbage", .delete "signing-key"] with ⟨signs, alike⟩
    have signed : Sample.issuedDraft.sign Sample.deployment.issuer.scheme (.p256 Sample.key) =
        .ok ((Compact.unsigned Sample.issuedDraft.header Sample.issuedDraft.claims).withSignature
          Sample.issuedSignature) :=
      Sample.sign_eq_ok rfl Sample.issuedSignature
    rcases Draft.sign_eq_ok_iff.mp signed with ⟨signature, made, yielded⟩
    have issued := (signs.issued_iff Instant.epoch Sample.supplies.random
      [("sub", .string "alice")] "bob" _).mpr ⟨_, .p256 Sample.key, "k", _, signature,
        Sample.text?_none, Sample.decode_writePrivate, rfl, Sample.later_issued, ⟨_, rfl⟩, made,
        yielded⟩
    have same := alike [] [.store "signing-key" "garbage", .delete "signing-key"] rfl
    rcases same.tokens _ _ _ _ _ _ _ issued issued with ⟨-, -, key, supplied, verifies⟩
    have missing : cleared.secret? Sample.deployment.keyName = none := rfl
    rcases (signingKey_eq_ok_iff missing).mp supplied with ⟨text, current, decoded⟩
    obtain rfl := Option.some.inj (Sample.text?_none.symm.trans current)
    obtain rfl : .p256 Sample.key = key :=
      KeyMaterial.privateKey.inj (Except.ok.inj (Sample.decode_writePrivate.symm.trans decoded))
    exact ⟨_, issued, (verifies (Sample.soundFor_key _ _)).1⟩

end Deployment

end Attest.Token
