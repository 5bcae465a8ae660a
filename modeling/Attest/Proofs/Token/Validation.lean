import Attest.Proofs.Token.Claims
import Attest.Proofs.Token.Compact
import Attest.Proofs.Token.Signature
import Attest.Token.Validation

/-!
# What validation accepts

Each phase of validation is described by what its success means.  From this follows
what an accepted token says about algorithm, key and signature, what the signature phase
makes of the claims, and how the verdicts of rules decide.
-/

namespace Attest.Token

/-! ## Two signed tokens

The key with the scalar one has the generator as its point.  It signed a token with a
claim that is `null`, and another with an empty list as its subject. -/

namespace Sample

/-- The header of both tokens. -/
def header : Header := .naming .es256 (some "JWT") (some "k")

/-- The token of a payload and a signature. -/
def token (payload : List (String × Json)) (signature : Octets) : Compact :=
  (Compact.unsigned header payload).withSignature signature

/-- The payload of the first token. -/
def payload : List (String × Json) := [("sub", .string "alice"), ("admin", .null)]

/-- The signature of the first token. -/
def signature : Octets :=
  Octets.ofNat 64
    (0x873d85cb322840b2d8c13a094da4f10c356401633027da147a6fbe1c11c974bd * 2 ^ 256 +
      0x323c1c2abb1ce36f69dddb25cc34a4f21e6cf83a90224626014a229b130beea3)

/-- The payload of the second token. -/
def listSubject : List (String × Json) := [("sub", .array [])]

/-- The signature of the second token. -/
def listSubjectSignature : Octets :=
  Octets.ofNat 64
    (0x7863989003b7a30abe78b300f428e2dd1a70eb019a59d25934292ff0ae5d193a * 2 ^ 256 +
      0xb311678c37c8d6544a869b4ec942c2fe6837bfcf67f3b9470adca6a632014736)

/-- The resolver that knows the generator as the key of the tokens. -/
def resolver : Key.PublicResolver := fun keyId =>
  if keyId = "k" then .ok (.p256 P256.generator) else .error (.resolution "no such key")

/-- The scheme that knows one signature of the generator's key and no other. -/
def scheme (message signature : Octets) : SignatureScheme where
  curveSign key octets :=
    if key.point = P256.generator ∧ octets = message then some signature else none
  curveVerifies point octets candidate :=
    point = P256.generator ∧ octets = message ∧ candidate = signature
  rsaSign _ _ _ _ := none
  rsaVerifies _ _ _ _ _ := false
  words := .none

/-- The validator that knows the signature of the first token and no other. -/
def validator : Validator where
  scheme := scheme (Compact.unsigned header payload).signedOctets signature

theorem reads_payload : (Json.object payload).Every Json.NumberReadsBack := by
  simp [payload, Json.Every, Json.EveryMember, Json.NumberReadsBack]

theorem reads_listSubject : (Json.object listSubject).Every Json.NumberReadsBack := by
  simp [listSubject, Json.Every, Json.EveryMember, Json.EveryItem, Json.NumberReadsBack]

theorem scheme_verifies (message signature : Octets) :
    (scheme message signature).curveVerifies P256.generator message signature = true := by
  simp [scheme]

theorem standard_verifies_payload :
    (SignatureScheme.standard .none []).curveVerifies P256.generator
      (Compact.unsigned header payload).signedOctets signature = true := by
  decide +kernel

theorem standard_verifies_listSubject :
    (SignatureScheme.standard .none []).curveVerifies P256.generator
      (Compact.unsigned header listSubject).signedOctets listSubjectSignature = true := by
  decide +kernel

end Sample

namespace Validator

variable {validator : Validator} {resolver : Key.PublicResolver} {token : String}
  {decoded : Decoded} {key : PublicKey} {claims : Claims} {rules : List Rule}
  {circumstances : Circumstances}

/-! ## The phases -/

theorem decode?_eq_some_iff :
    decode? token = some decoded ↔
      Compact.ofText? token = some decoded.compact ∧
        decoded.compact.header? = some decoded.header ∧
        decoded.compact.payload? = some decoded.payload := by
  simp only [decode?, Option.bind_eq_bind, Option.bind_eq_some_iff]
  constructor
  · rintro ⟨compact, segments, header, headerRead, payload, payloadRead, built⟩
    cases built
    exact ⟨segments, headerRead, payloadRead⟩
  · rintro ⟨segments, headerRead, payloadRead⟩
    exact ⟨decoded.compact, segments, decoded.header, headerRead, decoded.payload, payloadRead, rfl⟩

/-- The text of a signed token is decoded as what was signed. -/
theorem decode?_signed {members : List (String × Json)}
    (reads : (Json.object members).Every Json.NumberReadsBack)
    (shallow : (Json.object members).nesting ≤ Json.depthLimit) (algorithm : Algorithm)
    (typ kid : Option String) (signature : Octets) :
    let compact :=
      (Compact.unsigned (.naming algorithm typ kid) members).withSignature signature
    decode? compact.text = some ⟨compact, .naming algorithm typ kid, members⟩ :=
  decode?_eq_some_iff.mpr
    ⟨Compact.ofText?_text (Compact.dotless_withSignature _ _ _),
      Compact.header?_of_naming rfl, Compact.payload?_of_members reads shallow rfl⟩

/-- What the third phase checks of the header and the signature, leaving the claims
aside. -/
structure SignedBy (validator : Validator) (decoded : Decoded) (key : PublicKey)
    (signature : Octets) : Prop where
  allowed : decoded.header.algorithm ∈ validator.allowed
  worksWith : decoded.header.algorithm.worksWith key.family = true
  signature? : decoded.compact.signature? = some signature
  verified : validator.scheme.verify decoded.header.algorithm key decoded.compact.signedOctets
    signature = true

/-- The third phase succeeds when the token is signed and its registered claims can be
read. -/
theorem verifies_iff :
    validator.verifies decoded key = true ↔
      (∃ signature, validator.SignedBy decoded key signature) ∧
        registeredReadable decoded.payload = true := by
  simp only [verifies, VerifyingKey.bind_public?_handOver, Bool.and_eq_true, List.contains_iff_mem]
  constructor
  · rintro ⟨⟨⟨allowed, worksWith⟩, verified⟩, readable⟩
    cases signature? : decoded.compact.signature? with
    | none => simp [signature?] at verified
    | some signature =>
        rw [signature?] at verified
        exact ⟨⟨signature, allowed, worksWith, signature?, verified⟩, readable⟩
  · rintro ⟨⟨signature, signed⟩, readable⟩
    refine ⟨⟨⟨signed.allowed, signed.worksWith⟩, ?_⟩, readable⟩
    rw [signed.signature?]
    exact signed.verified

section Acting

variable {m : Type → Type} [Monad m] [LawfulMonad m]

theorem validateM_eq_bind (validator : Validator) (resolver : String → m (Outcome PublicKey))
    (rules : List (Circumstances → Claims → m Verdict)) (circumstances : Circumstances)
    (token : String) :
    validator.validateM resolver rules circumstances token =
      validator.authenticateM resolver token >>= checkRulesM rules circumstances := by
  rw [validateM, authenticateM]
  cases decode? token with
  | none => rw [pure_bind, checkRulesM]
  | some decoded => rfl

theorem authenticateM_of_pure (validator : Validator) (resolver : Key.PublicResolver)
    (token : String) :
    validator.authenticateM (m := m) (fun keyId => pure (resolver keyId)) token =
      pure (match decode? token with
        | none => .error undecodable
        | some decoded => (resolver (keyIdOf decoded.header)).bind fun key =>
            if validator.verifies decoded key then .ok (claimsOf decoded)
            else .error unverified) := by
  rw [authenticateM]
  cases decode? token with
  | none => rfl
  | some decoded =>
      simp only [verifyM, pure_bind]
      cases resolver (keyIdOf decoded.header) with
      | error failure => rfl
      | ok key =>
          dsimp only [Except.bind]
          split <;> rfl

/-- The first three phases, one after the other. -/
theorem authenticate_eq (validator : Validator) (resolver : Key.PublicResolver) (token : String) :
    validator.authenticate resolver token =
      match decode? token with
      | none => .error undecodable
      | some decoded => (resolver (keyIdOf decoded.header)).bind fun key =>
          if validator.verifies decoded key then .ok (claimsOf decoded) else .error unverified :=
  congrArg Id.run (authenticateM_of_pure (m := Id) validator resolver token)

theorem authenticateM_pure (validator : Validator) (resolver : Key.PublicResolver)
    (token : String) :
    validator.authenticateM (m := m) (fun keyId => pure (resolver keyId)) token =
      pure (validator.authenticate resolver token) := by
  rw [authenticate_eq]
  exact authenticateM_of_pure validator resolver token

theorem checkRulesM_pure (rules : List Rule) (circumstances : Circumstances)
    (ending : Outcome Claims) :
    checkRulesM (m := m) (rules.map fun rule circumstances claims =>
      pure (rule circumstances claims)) circumstances ending =
        pure (ending.bind (checkRules rules circumstances)) := by
  cases ending with
  | error failure => rfl
  | ok claims =>
      simp only [checkRulesM, verdictsOfM_pure, ← verdictsOf_eq_map, pure_bind]
      rfl

/-- The rules are applied to what the first three phases end with. -/
theorem validate_eq_bind (validator : Validator) (resolver : Key.PublicResolver)
    (rules : List Rule) (circumstances : Circumstances) (token : String) :
    validator.validate resolver rules circumstances token =
      (validator.authenticate resolver token).bind (checkRules rules circumstances) := by
  rw [validate, validateM_eq_bind, authenticateM_pure, pure_bind, checkRulesM_pure]
  rfl

/-- Where no call does anything but return, validation with actions is validation. -/
theorem validateM_pure (validator : Validator) (resolver : Key.PublicResolver)
    (rules : List Rule) (circumstances : Circumstances) (token : String) :
    validator.validateM (m := m) (fun keyId => pure (resolver keyId))
        (rules.map fun rule circumstances claims => pure (rule circumstances claims))
        circumstances token =
      pure (validator.validate resolver rules circumstances token) := by
  rw [validateM_eq_bind, authenticateM_pure, pure_bind, checkRulesM_pure, validate_eq_bind]

end Acting

/-- The first three phases on a token that is decoded and whose key is resolved. -/
theorem authenticate_of_resolved (decodes : decode? token = some decoded)
    (resolves : resolver (keyIdOf decoded.header) = .ok key) :
    validator.authenticate resolver token =
      if validator.verifies decoded key then .ok (claimsOf decoded) else .error unverified := by
  simp only [authenticate_eq, decodes, resolves]
  rfl

theorem authenticate_eq_ok_iff :
    validator.authenticate resolver token = .ok claims ↔
      ∃ decoded key, decode? token = some decoded ∧
        resolver (keyIdOf decoded.header) = .ok key ∧
        validator.verifies decoded key = true ∧ claims = claimsOf decoded := by
  constructor
  · intro accepted
    cases decodes : decode? token with
    | none => simp [authenticate_eq, decodes] at accepted
    | some decoded =>
        cases resolves : resolver (keyIdOf decoded.header) with
        | error failure =>
            simp only [authenticate_eq, decodes, resolves] at accepted
            cases accepted
        | ok key =>
            rw [authenticate_of_resolved decodes resolves] at accepted
            split at accepted
            · next verified =>
                cases accepted
                exact ⟨decoded, key, rfl, resolves, verified, rfl⟩
            · cases accepted
  · rintro ⟨decoded, key, decodes, resolves, verified, rfl⟩
    rw [authenticate_of_resolved decodes resolves, if_pos verified]

/-- The rules accept when none of them has a message. -/
theorem checkRules_eq_ok_iff {accepted : Claims} :
    checkRules rules circumstances claims = .ok accepted ↔
      accepted = claims ∧ ∀ rule ∈ rules, (rule circumstances claims).messages = [] := by
  have collected : collectMessages (verdictsOf rules circumstances claims) = [] ↔
      ∀ rule ∈ rules, (rule circumstances claims).messages = [] := by
    simp [collectMessages, verdictsOf_eq_map]
  rw [checkRules, settleVerdicts, ← collected]
  split
  · next silent => simp [silent, eq_comm]
  · next spoken =>
      constructor
      · intro bad
        cases bad
      · rintro ⟨-, silent⟩
        exact absurd silent spoken

/-- A token is accepted when the first three phases yield its claims and no rule has a
message about them. -/
theorem validate_eq_ok_iff :
    validator.validate resolver rules circumstances token = .ok claims ↔
      validator.authenticate resolver token = .ok claims ∧
        ∀ rule ∈ rules, (rule circumstances claims).messages = [] := by
  rw [validate_eq_bind]
  cases authenticated : validator.authenticate resolver token with
  | error failure => simp [Except.bind]
  | ok found =>
      simp only [Except.bind, checkRules_eq_ok_iff, Except.ok.injEq]
      constructor
      · rintro ⟨rfl, silent⟩
        exact ⟨rfl, silent⟩
      · rintro ⟨rfl, silent⟩
        exact ⟨rfl, silent⟩

theorem decode?_sample {payload : List (String × Json)}
    (reads : (Json.object payload).Every Json.NumberReadsBack)
    (shallow : (Json.object payload).nesting ≤ Json.depthLimit) (signature : Octets) :
    decode? (Sample.token payload signature).text =
      some ⟨Sample.token payload signature, Sample.header, payload⟩ :=
  decode?_signed reads shallow .es256 (some "JWT") (some "k") signature

theorem signedBy_sample {scheme : SignatureScheme} {payload : List (String × Json)}
    {signature : Octets}
    (verified : scheme.curveVerifies P256.generator
      (Compact.unsigned Sample.header payload).signedOctets signature = true) :
    SignedBy { scheme := scheme } ⟨Sample.token payload signature, Sample.header, payload⟩
      (.p256 P256.generator) signature where
  allowed := (by decide : Algorithm.es256 ∈ Algorithm.allowedByDefault)
  worksWith := rfl
  signature? := Compact.signature?_withSignature _ _
  verified := verified

/-- The first token is authentic under every scheme that verifies its signature. -/
theorem authenticate_sample {scheme : SignatureScheme}
    (verified : scheme.curveVerifies P256.generator
      (Compact.unsigned Sample.header Sample.payload).signedOctets Sample.signature = true) :
    authenticate { scheme := scheme } Sample.resolver
        (Sample.token Sample.payload Sample.signature).text =
      .ok (claimsOf ⟨Sample.token Sample.payload Sample.signature, Sample.header,
        Sample.payload⟩) := by
  have resolves : Sample.resolver (keyIdOf Sample.header) = .ok (.p256 P256.generator) := rfl
  rw [authenticate_of_resolved
      (decode?_sample Sample.reads_payload (by decide) Sample.signature) resolves,
    if_pos (verifies_iff.mpr ⟨⟨Sample.signature, signedBy_sample verified⟩, by decide⟩)]

/-! ## Accepted tokens -/

/-- An accepted token is signed over its own header and payload, with an allowed algorithm
and with the key that its header names, and the algorithm is one of the family of the
key. -/
theorem signed_of_validate_eq_ok
    (accepted : validator.validate resolver rules circumstances token = .ok claims) :
    ∃ compact header key signature,
      token = compact.header ++ "." ++ compact.payload ++ "." ++ compact.signature ∧
      Compact.header? compact = some header ∧
      header.algorithm ∈ validator.allowed ∧
      resolver (header.kid.getD "") = .ok key ∧
      Base64.urlSafe.decode compact.signature = .ok signature ∧
      ((∃ point, key = .p256 point ∧ header.algorithm = .es256 ∧
          validator.scheme.curveVerifies point
            (Octets.ofText (compact.header ++ "." ++ compact.payload)) signature = true) ∨
        (∃ rsaKey padding hash, key = .rsa rsaKey ∧
          header.algorithm ∈ [.rs256, .rs384, .rs512, .ps256, .ps384, .ps512] ∧
          header.algorithm.rsaForm? = some (padding, hash) ∧
          validator.scheme.rsaVerifies rsaKey padding hash
            (Octets.ofText (compact.header ++ "." ++ compact.payload)) signature = true)) := by
  obtain ⟨authenticated, -⟩ := validate_eq_ok_iff.mp accepted
  obtain ⟨decoded, key, decodes, resolves, verified, -⟩ := authenticate_eq_ok_iff.mp authenticated
  obtain ⟨segments, headerRead, -⟩ := decode?_eq_some_iff.mp decodes
  obtain ⟨⟨signature, signed⟩, -⟩ := verifies_iff.mp verified
  refine ⟨decoded.compact, decoded.header, key, signature, ?_, headerRead, signed.allowed,
    resolves, ?_, ?_⟩
  · exact (Compact.text_of_ofText? segments).symm
  · have read := signed.signature?
    rw [Compact.signature?] at read
    cases signatureRead : Base64.urlSafe.decode decoded.compact.signature with
    | error fault => simp [signatureRead, Except.toOption] at read
    | ok octets =>
        rw [signatureRead] at read
        cases read
        rfl
  · rcases SignatureScheme.verify_eq_true_iff.mp signed.verified with
      curve | ⟨rsaKey, padding, hash, isRsa, form, holds⟩
    · exact Or.inl curve
    · exact Or.inr ⟨rsaKey, padding, hash, isRsa, Algorithm.mem_of_rsaForm?_eq_some form, form,
        holds⟩

theorem signed_of_validate_sample :
    ∃ compact header signature,
      (Sample.token Sample.payload Sample.signature).text =
        compact.header ++ "." ++ compact.payload ++ "." ++ compact.signature ∧
      Compact.header? compact = some header ∧
      header.algorithm = .es256 ∧
      Sample.resolver (header.kid.getD "") = .ok (.p256 P256.generator) ∧
      Base64.urlSafe.decode compact.signature = .ok signature ∧
      Sample.validator.scheme.curveVerifies P256.generator
        (Octets.ofText (compact.header ++ "." ++ compact.payload)) signature = true := by
  have verified := Sample.scheme_verifies
    (Compact.unsigned Sample.header Sample.payload).signedOctets Sample.signature
  have accepted : Sample.validator.validate Sample.resolver [] ⟨Instant.epoch, []⟩ _ = .ok _ :=
    validate_eq_ok_iff.mpr ⟨authenticate_sample verified, by simp⟩
  obtain ⟨compact, header, key, signature, text, headerRead, -, resolves, decoded, family⟩ :=
    signed_of_validate_eq_ok accepted
  have generator : key = .p256 P256.generator := by
    rw [Sample.resolver] at resolves
    split at resolves
    · exact (Except.ok.inj resolves).symm
    · cases resolves
  subst generator
  rcases family with ⟨point, same, algorithm, holds⟩ | ⟨rsaKey, padding, hash, otherFamily, -⟩
  · cases same
    exact ⟨compact, header, signature, text, headerRead, algorithm, resolves, decoded, holds⟩
  · cases otherFamily

/-! ## Claims in the signature phase -/

/-- The registered claims can be read: each comes once, the subject is no array and no
object, and the times are none with something in it. -/
structure RegisteredReadable (payload : List (String × Json)) : Prop where
  once : ∀ name ∈ registeredNames, (Table.keys payload).count name ≤ 1
  subject : ∀ value, Table.find? "sub" payload = some value → isCompound value = false
  times : ∀ name ∈ ["exp", "nbf"], ∀ value, Table.find? name payload = some value →
    isFilledCompound value = false

theorem registeredReadable_iff {payload : List (String × Json)} :
    registeredReadable payload = true ↔ RegisteredReadable payload := by
  have checks : registeredReadable payload =
      (Table.onceEach registeredNames payload &&
        (Table.find? "sub" payload).all (fun value => !isCompound value) &&
        (Table.find? "exp" payload).all (fun value => !isFilledCompound value) &&
        (Table.find? "nbf" payload).all (fun value => !isFilledCompound value)) := by
    simp only [registeredReadable]
    cases Table.find? "sub" payload <;> cases Table.find? "exp" payload <;>
      cases Table.find? "nbf" payload <;> simp only [Option.all_none, Option.all_some]
  have all_iff : ∀ {found : Option Json} {refused : Json → Bool},
      found.all (fun value => !refused value) = true ↔
        ∀ value, found = some value → refused value = false := by
    rintro (_ | value) refused <;> simp
  simp only [checks, Bool.and_eq_true, Table.onceEach_iff, all_iff]
  constructor
  · rintro ⟨⟨⟨once, subject⟩, expiry⟩, start⟩
    refine ⟨once, subject, fun name member => ?_⟩
    rcases List.mem_pair.mp member with rfl | rfl
    · exact expiry
    · exact start
  · rintro ⟨once, subject, times⟩
    exact ⟨⟨⟨once, subject⟩, times "exp" (by decide)⟩, times "nbf" (by decide)⟩

/-- The claims of a decoded token are the last members of each name that are not
`null`. -/
theorem holds_claimsOf (decoded : Decoded) :
    (claimsOf decoded).Holds (Json.settleMembers decoded.payload) :=
  Claims.holds_ofEntries _

/-- A token whose registered claims cannot be read is refused as unverified, whatever its
signature. -/
theorem validate_of_unreadable (decodes : decode? token = some decoded)
    (resolves : resolver (keyIdOf decoded.header) = .ok key)
    (unreadable : ¬RegisteredReadable decoded.payload) :
    validator.validate resolver rules circumstances token = .error unverified := by
  have refused : ¬validator.verifies decoded key = true := fun verified =>
    unreadable (registeredReadable_iff.mp (verifies_iff.mp verified).2)
  rw [validate_eq_bind, authenticate_of_resolved decodes resolves, if_neg refused]
  rfl

/-- Without rules, a signed token whose registered claims can be read is accepted with its
claims. -/
theorem validate_of_readable (decodes : decode? token = some decoded)
    (resolves : resolver (keyIdOf decoded.header) = .ok key) {signature : Octets}
    (signed : validator.SignedBy decoded key signature)
    (readable : RegisteredReadable decoded.payload) :
    ∃ claims, validator.validate resolver [] circumstances token = .ok claims ∧
      claims.Holds (Json.settleMembers decoded.payload) := by
  have verified : validator.verifies decoded key = true :=
    verifies_iff.mpr ⟨⟨signature, signed⟩, registeredReadable_iff.mpr readable⟩
  have authenticated : validator.authenticate resolver token = .ok (claimsOf decoded) := by
    rw [authenticate_of_resolved decodes resolves, if_pos verified]
  exact ⟨claimsOf decoded, validate_eq_ok_iff.mpr ⟨authenticated, by simp⟩,
    holds_claimsOf decoded⟩

/-- Without rules, a signed token is accepted with its claims when the registered claims
can be read, and is refused as unverified when they cannot. -/
theorem validate_of_signed (decodes : decode? token = some decoded)
    (resolves : resolver (keyIdOf decoded.header) = .ok key) {signature : Octets}
    (signed : validator.SignedBy decoded key signature) :
    (RegisteredReadable decoded.payload →
      ∃ claims, validator.validate resolver [] circumstances token = .ok claims ∧
        claims.Holds (Json.settleMembers decoded.payload)) ∧
    (¬RegisteredReadable decoded.payload →
      validator.validate resolver [] circumstances token = .error unverified) :=
  ⟨validate_of_readable decodes resolves signed, validate_of_unreadable decodes resolves⟩

theorem validate_of_signed_sample :
    ∃ claims, Sample.validator.validate Sample.resolver [] ⟨Instant.epoch, []⟩
        (Sample.token Sample.payload Sample.signature).text = .ok claims ∧
      claims.Holds (Json.settleMembers Sample.payload) := by
  have verified := Sample.scheme_verifies
    (Compact.unsigned Sample.header Sample.payload).signedOctets Sample.signature
  have readable : RegisteredReadable Sample.payload := registeredReadable_iff.mp (by decide)
  exact (validate_of_signed (decode?_sample Sample.reads_payload (by decide) _) rfl
    (signedBy_sample verified)).1 readable

/-- A signed token whose subject is a list is refused as unverified. -/
theorem unverified_of_list_subject :
    (∃ decoded signature,
      decode? (Sample.token Sample.listSubject Sample.listSubjectSignature).text = some decoded ∧
      decoded.payload = [("sub", .array [])] ∧
      Sample.resolver (keyIdOf decoded.header) = .ok (.p256 P256.generator) ∧
      SignedBy {} decoded (.p256 P256.generator) signature) ∧
    validate {} Sample.resolver [] ⟨Instant.epoch, []⟩
      (Sample.token Sample.listSubject Sample.listSubjectSignature).text = .error unverified := by
  have decodes := decode?_sample Sample.reads_listSubject (by decide) Sample.listSubjectSignature
  have signed := signedBy_sample Sample.standard_verifies_listSubject
  have unreadable : ¬RegisteredReadable Sample.listSubject := fun readable =>
    absurd (registeredReadable_iff.mpr readable) (by decide)
  exact ⟨⟨_, _, decodes, rfl, rfl, signed⟩, validate_of_unreadable decodes rfl unreadable⟩

/-! ## Verdicts of rules -/

/-- Some rule objects, but no rule has a message. -/
def ObjectedInSilence (rules : List Rule) (circumstances : Circumstances) (claims : Claims) :
    Prop :=
  (∃ rule ∈ rules, ∃ objection, rule circumstances claims = .error objection) ∧
    ∀ rule ∈ rules, (rule circumstances claims).messages = []

/-- That no rule has a message means that every rule passes, unless rules object in
silence. -/
theorem no_messages_iff_all_pass_iff {rules : List Rule} {circumstances : Circumstances}
    {claims : Claims} :
    ((∀ rule ∈ rules, (rule circumstances claims).messages = []) ↔
      ∀ rule ∈ rules, rule circumstances claims = .ok ()) ↔
      ¬ObjectedInSilence rules circumstances claims := by
  constructor
  · rintro law ⟨⟨rule, member, objection, objects⟩, silent⟩
    have passes := law.mp silent rule member
    rw [objects] at passes
    cases passes
  · intro spoken
    constructor
    · intro silent rule member
      cases verdict : rule circumstances claims with
      | ok _ => rfl
      | error objection => exact absurd ⟨⟨rule, member, objection, verdict⟩, silent⟩ spoken
    · intro pass rule member
      rw [pass rule member]
      rfl

/-- A token is accepted exactly when it is authentic and every rule passes, unless its
rules object in silence. -/
theorem accepted_iff_rules_pass_iff (validator : Validator) (resolver : Key.PublicResolver)
    (rules : List Rule) (circumstances : Circumstances) (token : String) :
    ((∃ claims, validator.validate resolver rules circumstances token = .ok claims) ↔
      ∃ claims, validator.authenticate resolver token = .ok claims ∧
        ∀ rule ∈ rules, rule circumstances claims = .ok ()) ↔
    ¬∃ claims, validator.authenticate resolver token = .ok claims ∧
      ObjectedInSilence rules circumstances claims := by
  constructor
  · rintro law ⟨claims, authenticated, silently⟩
    obtain ⟨found, foundAuthenticated, pass⟩ :=
      law.mp ⟨claims, validate_eq_ok_iff.mpr ⟨authenticated, silently.2⟩⟩
    have same : found = claims := Except.ok.inj (foundAuthenticated.symm.trans authenticated)
    subst same
    exact no_messages_iff_all_pass_iff.mp ⟨fun _ => pass, fun _ => silently.2⟩ silently
  · intro spoken
    have law : ∀ claims, validator.authenticate resolver token = .ok claims →
        ((∀ rule ∈ rules, (rule circumstances claims).messages = []) ↔
          ∀ rule ∈ rules, rule circumstances claims = .ok ()) := fun claims authenticated =>
      no_messages_iff_all_pass_iff.mpr fun silently => spoken ⟨claims, authenticated, silently⟩
    constructor
    · rintro ⟨claims, accepted⟩
      obtain ⟨authenticated, silent⟩ := validate_eq_ok_iff.mp accepted
      exact ⟨claims, authenticated, (law claims authenticated).mp silent⟩
    · rintro ⟨claims, authenticated, pass⟩
      exact ⟨claims, validate_eq_ok_iff.mpr ⟨authenticated, (law claims authenticated).mpr pass⟩⟩

/-- A rule that objects without a message does not keep a token from being accepted. -/
theorem accepted_despite_silent_objection :
    (∃ claims, validate {} Sample.resolver [fun _ _ => .error ⟨[]⟩] ⟨Instant.epoch, []⟩
      (Sample.token Sample.payload Sample.signature).text = .ok claims) ∧
    ¬∃ claims, authenticate {} Sample.resolver
        (Sample.token Sample.payload Sample.signature).text = .ok claims ∧
      ∀ rule ∈ ([fun _ _ => .error ⟨[]⟩] : List Rule),
        rule ⟨Instant.epoch, []⟩ claims = .ok () := by
  have authenticated := authenticate_sample Sample.standard_verifies_payload
  constructor
  · exact ⟨_, validate_eq_ok_iff.mpr ⟨authenticated, by simp [Verdict.messages]⟩⟩
  · rintro ⟨claims, -, pass⟩
    have passes := pass _ List.mem_cons_self
    cases passes

end Validator

end Attest.Token
