import Attest.Proofs.Token.Validation
import Attest.Token.Issuance

/-!
# Generated tokens are accepted

A draft starts with a header that names an algorithm and a type, and decorations keep it
a header that names an algorithm, a type and a key; the claims stay well-formed.  So the
text of a signed draft is decoded as the draft, and the algorithm that its key signed
with is one that validation accepts for this key.
-/

namespace Attest.Token

/-! ## Decorations -/

/-- A decoration changes of the header only the algorithm, the type and the key, and it
inserts well-formed claims. -/
def Decoration.Regular (decoration : Decoration) : Prop :=
  ∀ draft, ∃ algorithm typ kid members,
    (∀ member ∈ members, Json.WellFormed member.2) ∧
    decoration draft =
      ⟨{ draft.header with algorithm, typ, kid }, Table.insertAll draft.claims members⟩

/-- The second of an instant has at most 64 bits. -/
theorem wellFormed_seconds (instant : Instant) : (Json.int instant.seconds).WellFormed := by
  have inCalendar := instant.inCalendar
  simp only [firstSecond, lastSecond, nanosPerSecond] at inCalendar
  constructor
  · simp only [leastInt64, Instant.seconds, nanosPerSecond]
    omega
  · simp only [greatestUnsigned64, Instant.seconds, nanosPerSecond]
    omega

namespace Decoration

theorem regular_claims {members : List (String × Json)}
    (wellFormed : ∀ member ∈ members, Json.WellFormed member.2) : (claims members).Regular :=
  fun _ => ⟨_, _, _, members, wellFormed, rfl⟩

theorem regular_header (algorithm : Header → Algorithm) (typ kid : Header → Option String) :
    (header fun header => { header with
      algorithm := algorithm header, typ := typ header, kid := kid header }).Regular :=
  fun _ => ⟨_, _, _, [], by simp, rfl⟩

theorem regular_keyId (identifier : String) : (keyId identifier).Regular :=
  regular_header Header.algorithm Header.typ fun _ => some identifier

theorem regular_standard (issued expires : Instant) (audience identifier : String) :
    (standard issued expires audience identifier).Regular := by
  refine regular_claims fun member member_mem => ?_
  simp only [standardMembers, List.mem_cons, List.not_mem_nil, or_false] at member_mem
  rcases member_mem with rfl | rfl | rfl | rfl
  · exact wellFormed_seconds issued
  · exact wellFormed_seconds expires
  · trivial
  · trivial

end Decoration

/-! ## Drafts -/

/-- The header of the draft names an algorithm, a type and a key, and the claims are
well-formed and distinct. -/
structure Draft.Regular (draft : Draft) : Prop where
  header : ∃ algorithm typ kid, draft.header = .naming algorithm typ kid
  claims : (Json.object draft.claims).WellFormed

namespace Draft

variable {draft : Draft} {decoration : Decoration} {key : PrivateKey}

theorem regular_start (key : PrivateKey) : (start key).Regular where
  header := ⟨_, _, _, rfl⟩
  claims := Json.wellFormed_object_iff.mpr ⟨List.nodup_nil, by simp [start]⟩

/-- A regular decoration keeps a draft regular. -/
theorem Regular.decorate (regular : draft.Regular) (decorates : decoration.Regular) :
    (decoration draft).Regular := by
  obtain ⟨algorithm, typ, kid, members, wellFormed, equal⟩ := decorates draft
  obtain ⟨distinct, before⟩ := Json.wellFormed_object_iff.mp regular.claims
  obtain ⟨oldAlgorithm, oldTyp, oldKid, plain⟩ := regular.header
  rw [equal]
  refine ⟨⟨algorithm, typ, kid, by rw [plain]; rfl⟩, Json.wellFormed_object_iff.mpr
    ⟨Table.nodup_keys_insertAll members distinct, fun member inserted => ?_⟩⟩
  rcases Table.mem_insertAll distinct inserted with old | new
  · exact before member old
  · exact wellFormed member new

/-- Regular decorations make a regular draft. -/
theorem regular_decorated {decorations : List Decoration}
    (regular : ∀ decoration ∈ decorations, decoration.Regular) :
    (decorated key decorations).Regular := by
  -- The run may start from any regular draft, so that the induction can go on from the next.
  suffices ∀ draft : Draft, draft.Regular →
      (decorations.foldl (fun draft decoration => decoration draft) draft).Regular from
    this _ (regular_start key)
  induction decorations with
  | nil => exact fun draft h => h
  | cons decoration rest ih =>
      intro draft h
      exact ih (fun other member => regular other (List.mem_cons_of_mem _ member)) _
        (h.decorate (regular decoration List.mem_cons_self))

/-- A signed draft is the draft with the signature of its key. -/
theorem exists_signature_of_sign_eq_ok {scheme : SignatureScheme} {compact : Compact}
    (h : draft.sign scheme key = .ok compact) :
    ∃ signature, compact = (Compact.unsigned draft.header draft.claims).withSignature signature ∧
      scheme.sign draft.header.algorithm key
        (Compact.unsigned draft.header draft.claims).signedOctets = .ok signature := by
  rw [sign] at h
  split at h
  · next signature signed => exact ⟨signature, (Except.ok.inj h).symm, signed⟩
  · simp at h

theorem sign_eq_ok_iff {scheme : SignatureScheme} {compact : Compact} :
    draft.sign scheme key = .ok compact ↔
      ∃ signature, compact = (Compact.unsigned draft.header draft.claims).withSignature signature ∧
        scheme.sign draft.header.algorithm key
          (Compact.unsigned draft.header draft.claims).signedOctets = .ok signature := by
  refine ⟨exists_signature_of_sign_eq_ok, ?_⟩
  rintro ⟨signature, rfl, signed⟩
  simp only [sign, signed]

theorem sign_eq_error_iff {scheme : SignatureScheme} {failure : Failure} :
    draft.sign scheme key = .error failure ↔
      ∃ fault, failure = .issuance ("Failed to sign token: " ++ fault.message) ∧
        scheme.sign draft.header.algorithm key
          (Compact.unsigned draft.header draft.claims).signedOctets = .error fault := by
  simp only [sign]
  split
  · next signature signed => simp [signed]
  · next fault fails => simp [fails, eq_comm]

/-- What is asked of the claims of a draft so that they can be read back: the signature
phase can read the registered ones, doubles read back, and they nest no deeper than the
reader allows. -/
structure ReadsBack (draft : Draft) : Prop where
  registered : Validator.RegisteredReadable draft.claims
  floats : (Json.object draft.claims).Every Json.FloatReadsBack
  shallow : (Json.object draft.claims).nesting ≤ Json.depthLimit

/-- A token carries a draft to its validator: it has the header of the draft, whose
algorithm is one of the family of the key, and where the header's key is found, validation
by default accepts the token with the claims of the draft. -/
structure CarriedBy (draft : Draft) (scheme : SignatureScheme) (key : PrivateKey)
    (compact : Compact) : Prop where
  header : compact.header? = some draft.header
  worksWith : draft.header.algorithm.worksWith key.family = true
  accepted : draft.ReadsBack → ∀ (resolver : Key.PublicResolver) (circumstances : Circumstances),
    resolver (draft.header.kid.getD "") = .ok key.publicKey →
    ∃ claims, Validator.validate { scheme := scheme } resolver [] circumstances compact.text =
      .ok claims ∧ claims.Holds draft.claims

/-- The decoded token of a draft with a signature. -/
def decoded (draft : Draft) (signature : Octets) : Decoded where
  compact := (Compact.unsigned draft.header draft.claims).withSignature signature
  header := draft.header
  payload := draft.claims

theorem Regular.decode?_text (regular : draft.Regular) (reads : draft.ReadsBack)
    (signature : Octets) :
    Validator.decode? (draft.decoded signature).compact.text = some (draft.decoded signature) := by
  obtain ⟨algorithm, typ, kid, plain⟩ := regular.header
  have numbers : (Json.object draft.claims).Every Json.NumberReadsBack :=
    Json.Every.imp₂ Json.numberReadsBack_of_wellFormedAt regular.claims reads.floats
  rw [decoded, plain]
  exact Validator.decode?_signed numbers reads.shallow algorithm typ kid signature

/-- A token that its key signed is signed by the public key for validation by default. -/
theorem signedBy_publicKey {scheme : SignatureScheme} {signature : Octets}
    (sound : scheme.SoundFor key)
    (signed : scheme.sign draft.header.algorithm key
      (Compact.unsigned draft.header draft.claims).signedOctets = .ok signature) :
    Validator.SignedBy { scheme := scheme } (draft.decoded signature) key.publicKey signature :=
  have works := SignatureScheme.worksWith_of_sign_eq_ok signed
  { allowed := Algorithm.mem_allowedByDefault_of_worksWith works
    worksWith := by rw [PrivateKey.family_publicKey]; exact works
    signature? := Compact.signature?_withSignature _ signature
    verified := SignatureScheme.verify_of_sign_eq_ok sound signed }

/-- A token that is signed by the key that its header names is authentic with the claims of the
draft. -/
theorem Regular.authenticate_eq_ok (regular : draft.Regular) (reads : draft.ReadsBack)
    {validator : Validator} {resolver : Key.PublicResolver} {found : PublicKey} {signature : Octets}
    (signed : validator.SignedBy (draft.decoded signature) found signature)
    (resolves : resolver (draft.header.kid.getD "") = .ok found) :
    validator.authenticate resolver (draft.decoded signature).compact.text =
      .ok (Claims.ofMembers draft.claims) := by
  have verified : validator.verifies (draft.decoded signature) found = true :=
    Validator.verifies_iff.mpr
      ⟨⟨signature, signed⟩, Validator.registeredReadable_iff.mpr reads.registered⟩
  have read : Validator.claimsOf (draft.decoded signature) = Claims.ofMembers draft.claims := by
    rw [Validator.claimsOf, decoded, Json.settleMembers_of_wellFormed regular.claims.2,
      Table.ofEntries_eq_self (Json.wellFormed_object_iff.mp regular.claims).1]
  rw [Validator.authenticate_of_resolved (regular.decode?_text reads signature) resolves,
    if_pos verified, read]

/-- A signed regular draft is carried by its token. -/
theorem Regular.carriedBy {scheme : SignatureScheme} {compact : Compact}
    (regular : draft.Regular) (sound : scheme.SoundFor key)
    (h : draft.sign scheme key = .ok compact) : draft.CarriedBy scheme key compact := by
  obtain ⟨signature, rfl, signed⟩ := exists_signature_of_sign_eq_ok h
  refine ⟨?_, SignatureScheme.worksWith_of_sign_eq_ok signed,
    fun reads resolver circumstances resolves => ?_⟩
  · obtain ⟨algorithm, typ, kid, plain⟩ := regular.header
    rw [plain]
    exact Compact.header?_of_naming rfl
  · have settled : Json.settleMembers draft.claims = draft.claims :=
      Json.settleMembers_of_wellFormed regular.claims.2
    have validated : ∃ claims, Validator.validate { scheme := scheme } resolver [] circumstances
        (draft.decoded signature).compact.text = .ok claims ∧
          claims.Holds (Json.settleMembers draft.claims) :=
      Validator.validate_of_readable (regular.decode?_text reads signature) resolves
        (signedBy_publicKey sound signed) reads.registered
    rwa [settled] at validated

end Draft

/-! ## Generating and issuing -/

/-- A curve key can always be handed to a signer. -/
theorem generate_p256 (scheme : SignatureScheme) (key : P256.PrivateKey)
    (decorations : List Decoration) :
    generate scheme (.p256 key) decorations =
      (Draft.decorated (.p256 key) decorations).sign scheme (.p256 key) :=
  rfl

theorem generate_eq_ok_iff {scheme : SignatureScheme} {key : PrivateKey}
    {decorations : List Decoration} {compact : Compact} :
    generate scheme key decorations = .ok compact ↔
      (∃ handed, SigningKey.ofPrivate scheme.words.unwritten key = .ok handed) ∧
        (Draft.decorated key decorations).sign scheme key = .ok compact := by
  rw [generate]
  cases handed : SigningKey.ofPrivate scheme.words.unwritten key with
  | error failure => simp [bind, Except.bind]
  | ok signingKey => simp [bind, Except.bind]

theorem sign_of_generate_eq_ok {scheme : SignatureScheme} {key : PrivateKey}
    {decorations : List Decoration} {compact : Compact}
    (h : generate scheme key decorations = .ok compact) :
    (Draft.decorated key decorations).sign scheme key = .ok compact :=
  (generate_eq_ok_iff.mp h).2

theorem generate_eq_error_iff {scheme : SignatureScheme} {key : PrivateKey}
    {decorations : List Decoration} {failure : Failure} :
    generate scheme key decorations = .error failure ↔
      SigningKey.ofPrivate scheme.words.unwritten key = .error failure ∨
        (∃ handed, SigningKey.ofPrivate scheme.words.unwritten key = .ok handed) ∧
          (Draft.decorated key decorations).sign scheme key = .error failure := by
  rw [generate]
  cases handed : SigningKey.ofPrivate scheme.words.unwritten key with
  | error failure => simp [bind, Except.bind]
  | ok signingKey => simp [bind, Except.bind]

theorem carriedBy_of_generate_eq_ok {scheme : SignatureScheme} {key : PrivateKey}
    {decorations : List Decoration} {compact : Compact} (sound : scheme.SoundFor key)
    (regular : ∀ decoration ∈ decorations, decoration.Regular)
    (h : generate scheme key decorations = .ok compact) :
    (Draft.decorated key decorations).CarriedBy scheme key compact :=
  (Draft.regular_decorated regular).carriedBy sound (sign_of_generate_eq_ok h)

namespace Issuer

theorem regular_decorations {issued expires : Instant} {random : Octets} {keyId : String}
    {claims : List (String × Json)} {audience : String}
    (wellFormed : ∀ member ∈ claims, Json.WellFormed member.2) :
    ∀ decoration ∈ decorations issued expires random keyId claims audience,
      decoration.Regular := by
  intro decoration member
  simp only [decorations, List.mem_cons, List.not_mem_nil, or_false] at member
  rcases member with rfl | rfl | rfl
  · exact Decoration.regular_claims wellFormed
  · exact Decoration.regular_standard issued expires audience _
  · exact Decoration.regular_keyId keyId

/-- An issued token is generated with the supplied key under the supplied identifier. -/
theorem generate_of_issue_eq_ok {issuer : Issuer} {supplies : Supplies}
    {claims : List (String × Json)} {audience : String} {compact : Compact}
    (h : issuer.issue supplies claims audience = .ok compact) :
    ∃ key keyId expires, supplies.signingKey = .ok key ∧ supplies.keyId = some keyId ∧
      supplies.now.add? issuer.lifetime = some expires ∧
      generate issuer.scheme key
        (decorations supplies.now expires supplies.random keyId claims audience) = .ok compact := by
  rw [issue] at h
  split at h
  · simp at h
  · next key supplied =>
      split at h
      · simp at h
      · next keyId named =>
          split at h
          · simp at h
          · next expires later => exact ⟨key, keyId, expires, supplied, named, later, h⟩

/-- With everything supplied, a token is issued by generating it. -/
theorem issue_of_supplied {issuer : Issuer} {supplies : Supplies} {key : PrivateKey}
    {keyId : String} {expires : Instant} (supplied : supplies.signingKey = .ok key)
    (named : supplies.keyId = some keyId) (later : supplies.now.add? issuer.lifetime = some expires)
    (claims : List (String × Json)) (audience : String) :
    issuer.issue supplies claims audience =
      generate issuer.scheme key
        (decorations supplies.now expires supplies.random keyId claims audience) := by
  simp only [issue, supplied, named, later]

/-- Why a token is not issued, one case for each way in which issuing can fail. -/
inductive Refusal (issuer : Issuer) (supplies : Supplies) (claims : List (String × Json))
    (audience : String) : Failure → Prop
  | key {cause : Failure} (missing : supplies.signingKey = .error cause) :
      Refusal issuer supplies claims audience (withoutKey cause)
  | keyId {key : PrivateKey} (supplied : supplies.signingKey = .ok key)
      (missing : supplies.keyId = none) : Refusal issuer supplies claims audience withoutKeyId
  | lifetime {key : PrivateKey} {keyId : String} (supplied : supplies.signingKey = .ok key)
      (named : supplies.keyId = some keyId) (beyond : supplies.now.add? issuer.lifetime = none) :
      Refusal issuer supplies claims audience (lifetimeOutOfRange issuer.lifetime)
  | generating {key : PrivateKey} {keyId : String} {expires : Instant} {failure : Failure}
      (supplied : supplies.signingKey = .ok key) (named : supplies.keyId = some keyId)
      (later : supplies.now.add? issuer.lifetime = some expires)
      (fails : generate issuer.scheme key
        (decorations supplies.now expires supplies.random keyId claims audience) =
          .error failure) : Refusal issuer supplies claims audience failure

theorem issue_eq_error_iff {issuer : Issuer} {supplies : Supplies}
    {claims : List (String × Json)} {audience : String} {failure : Failure} :
    issuer.issue supplies claims audience = .error failure ↔
      issuer.Refusal supplies claims audience failure := by
  constructor
  · intro fails
    rw [issue] at fails
    split at fails
    · next cause missing =>
        cases fails
        exact .key missing
    · next key supplied =>
        split at fails
        · next missing =>
            cases fails
            exact .keyId supplied missing
        · next keyId named =>
            split at fails
            · next beyond =>
                cases fails
                exact .lifetime supplied named beyond
            · next expires later => exact .generating supplied named later fails
  · rintro (missing | ⟨supplied, missing⟩ | ⟨supplied, named, beyond⟩ |
      ⟨supplied, named, later, fails⟩)
    · simp only [issue, missing]
    · simp only [issue, supplied, missing]
    · simp only [issue, supplied, named, beyond]
    · rw [issue_of_supplied supplied named later, fails]

end Issuer

/-- Every generated token and every issued token carries its final draft to the
validator. -/
theorem generated_and_issued_carried (scheme : SignatureScheme) (compact : Compact) :
    (∀ key decorations, scheme.SoundFor key →
      (∀ decoration ∈ decorations, Decoration.Regular decoration) →
      generate scheme key decorations = .ok compact →
      (Draft.decorated key decorations).CarriedBy scheme key compact) ∧
    (∀ lifetime supplies claims audience,
      (∀ key, supplies.signingKey = .ok key → scheme.SoundFor key) →
      (∀ member ∈ claims, Json.WellFormed member.2) →
      Issuer.issue ⟨lifetime, scheme⟩ supplies claims audience = .ok compact →
      ∃ key keyId expires, supplies.signingKey = .ok key ∧ supplies.keyId = some keyId ∧
        supplies.now.add? lifetime = some expires ∧
        (Draft.decorated key (Issuer.decorations supplies.now expires supplies.random keyId
          claims audience)).CarriedBy scheme key compact) := by
  constructor
  · intro key decorations sound regular generated
    exact carriedBy_of_generate_eq_ok sound regular generated
  · intro lifetime supplies claims audience sound wellFormed issued
    obtain ⟨key, keyId, expires, supplied, named, later, generated⟩ :=
      Issuer.generate_of_issue_eq_ok issued
    exact ⟨key, keyId, expires, supplied, named, later,
      carriedBy_of_generate_eq_ok (sound key supplied) (Issuer.regular_decorations wellFormed)
        generated⟩

namespace Sample

theorem one_lt_order : 1 < P256.order := by
  decide

theorem generatorMultiple?_one : P256.generatorMultiple? 1 = some P256.generator := by
  decide +kernel

/-- The key with the scalar one. -/
def key : P256.PrivateKey where
  scalar := 1
  point := P256.generator
  positive := Nat.one_pos
  lt_order := one_lt_order
  derived := generatorMultiple?_one

/-- The draft of the first token. -/
def draft : Draft := Draft.decorated (.p256 key) [.claims payload, .keyId "k"]

/-- What is supplied for an issued token. -/
def supplies : Supplies := ⟨.ok (.p256 key), some "k", Instant.epoch, List.replicate 16 0⟩

/-- The draft of the issued token. -/
def issuedDraft : Draft :=
  Draft.decorated (.p256 key) (Issuer.decorations Instant.epoch
    ⟨300 * nanosPerSecond, by decide⟩ supplies.random "k" [("sub", .string "alice")] "bob")

/-- The signature of the issued token. -/
def issuedSignature : Octets :=
  Octets.ofNat 64
    (0x10b9c687dd71d9ba7059ce0f89a47110ed84e8831c0ce6236e6da081e4648a74 * 2 ^ 256 +
      0x5ee6e43b00a287275bfd4490eee1f6ed4cd8730ea26fd69d27c4c15d49094b08)

/-- The scheme that knows the signature of a draft and no other. -/
def schemeOf (draft : Draft) (signature : Octets) : SignatureScheme :=
  scheme (Compact.unsigned draft.header draft.claims).signedOctets signature

theorem soundFor_key (draft : Draft) (signature : Octets) :
    (schemeOf draft signature).SoundFor (.p256 key) := by
  intro message found signed
  simp_all [schemeOf, scheme, key, eq_comm]

/-- The generator's key signs its draft when the draft keeps the preferred algorithm. -/
theorem sign_eq_ok {draft : Draft} (preferred : draft.header.algorithm = .es256)
    (signature : Octets) :
    draft.sign (schemeOf draft signature) (.p256 key) =
      .ok ((Compact.unsigned draft.header draft.claims).withSignature signature) := by
  have signed : (schemeOf draft signature).sign draft.header.algorithm (.p256 key)
      (Compact.unsigned draft.header draft.claims).signedOctets = .ok signature := by
    rw [preferred]
    simp [SignatureScheme.sign, SignatureScheme.signed, schemeOf, scheme, key]
  simp only [Draft.sign, signed]

theorem readsBack_draft : draft.ReadsBack where
  registered := Validator.registeredReadable_iff.mp (by decide)
  floats := ⟨trivial, trivial, trivial, trivial⟩
  shallow := by decide

theorem readsBack_issuedDraft : issuedDraft.ReadsBack where
  registered := Validator.registeredReadable_iff.mp (by decide)
  floats := ⟨trivial, trivial, trivial, trivial, trivial, trivial, trivial⟩
  shallow := by decide

theorem issue_eq_ok :
    Issuer.issue ⟨Duration.fiveMinutes, schemeOf issuedDraft issuedSignature⟩ supplies
        [("sub", .string "alice")] "bob" =
      .ok ((Compact.unsigned issuedDraft.header issuedDraft.claims).withSignature
        issuedSignature) := by
  have later : Instant.epoch.add? Duration.fiveMinutes =
      some ⟨300 * nanosPerSecond, by decide⟩ :=
    Instant.ofNanoseconds?_eq_some_iff.mpr rfl
  have issued : Issuer.issue ⟨Duration.fiveMinutes, schemeOf issuedDraft issuedSignature⟩ supplies
      [("sub", .string "alice")] "bob" =
        issuedDraft.sign (schemeOf issuedDraft issuedSignature) (.p256 key) := by
    simp only [Issuer.issue, supplies, later, issuedDraft, generate_p256]
  rw [issued]
  exact sign_eq_ok rfl issuedSignature

end Sample

theorem generated_and_issued_carried_sample :
    (∃ compact claims,
      generate (Sample.schemeOf Sample.draft Sample.signature) (.p256 Sample.key)
        [.claims Sample.payload, .keyId "k"] = .ok compact ∧
      Validator.validate { scheme := Sample.schemeOf Sample.draft Sample.signature }
        Sample.resolver [] ⟨Instant.epoch, []⟩ compact.text = .ok claims ∧
      claims.Holds Sample.draft.claims) ∧
    (∃ compact claims,
      Issuer.issue ⟨Duration.fiveMinutes, Sample.schemeOf Sample.issuedDraft Sample.issuedSignature⟩
        Sample.supplies [("sub", .string "alice")] "bob" = .ok compact ∧
      Validator.validate { scheme := Sample.schemeOf Sample.issuedDraft Sample.issuedSignature }
        Sample.resolver [] ⟨Instant.epoch, []⟩ compact.text = .ok claims ∧
      claims.Holds Sample.issuedDraft.claims) := by
  constructor
  · have regular : ∀ decoration ∈ [.claims Sample.payload, .keyId "k"],
        Decoration.Regular decoration := by
      intro decoration member
      rcases List.mem_pair.mp member with rfl | rfl
      · exact Decoration.regular_claims (by simp [Sample.payload, Json.WellFormed, Json.Every,
          Json.WellFormedAt])
      · exact Decoration.regular_keyId "k"
    have generated := generate_p256 (Sample.schemeOf Sample.draft Sample.signature) Sample.key
      [.claims Sample.payload, .keyId "k"]
    rw [← Sample.draft, Sample.sign_eq_ok rfl] at generated
    have carried := (generated_and_issued_carried _ _).1 _ _
      (Sample.soundFor_key Sample.draft Sample.signature) regular generated
    obtain ⟨claims, validated, holds⟩ := carried.accepted Sample.readsBack_draft Sample.resolver
      ⟨Instant.epoch, []⟩ rfl
    exact ⟨_, claims, generated, validated, holds⟩
  · have sound : ∀ key, Sample.supplies.signingKey = .ok key →
        (Sample.schemeOf Sample.issuedDraft Sample.issuedSignature).SoundFor key := by
      rintro key supplied
      cases supplied
      exact Sample.soundFor_key Sample.issuedDraft Sample.issuedSignature
    obtain ⟨key, keyId, expires, supplied, named, later, carried⟩ :=
      (generated_and_issued_carried _ _).2 _ _ _ _ sound
        (by simp [Json.WellFormed, Json.Every, Json.WellFormedAt]) Sample.issue_eq_ok
    cases supplied
    cases named
    cases later
    obtain ⟨claims, validated, holds⟩ := carried.accepted Sample.readsBack_issuedDraft
      Sample.resolver ⟨Instant.epoch, []⟩ rfl
    exact ⟨_, claims, Sample.issue_eq_ok, validated, holds⟩

end Attest.Token
