import Attest.Demo
import Attest.Proofs.Key.LocalService
import Attest.Proofs.Key.Written
import Attest.Proofs.Settings
import Attest.Proofs.Token.Generation
import Attest.Proofs.Token.Rule

/-!
# The self-issued token is accepted

A run stores its signing key in an empty vault and puts the public half at hand last, so neither
the configuration nor the public keys of the settings get in the way, whatever names the settings
give.  The claims of the token satisfy every rule but the one on expiration from the start; that
one compares whole seconds, and so the token may be refused up to a second before its lifetime is
over.
-/

namespace Attest.Demo

open Token

/-- The claims of the token. -/
def tokenMembers (surroundings : Surroundings) (settings : Settings) : Table Json :=
  [("iss", .string subject), ("sub", .string subject), ("iat", .int surroundings.issued.seconds),
    ("exp", .int (surroundings.issued.seconds + 60 * settings.issuing.lifetimeMinutes)),
    ("aud", .string audience), ("jti", .string (Uuid.text surroundings.random))]

/-- The draft of the token. -/
def draft (surroundings : Surroundings) (settings : Settings) : Draft :=
  ⟨.naming .es256 (some "JWT") (some settings.issuing.keyId), tokenMembers surroundings settings⟩

/-- What is signed. -/
def signedOctets (surroundings : Surroundings) (settings : Settings) : Octets :=
  (Compact.unsigned (draft surroundings settings).header
    (draft surroundings settings).claims).signedOctets

/-- The claims that the token is validated with. -/
def validatedClaims (surroundings : Surroundings) (settings : Settings) : Claims where
  entries :=
    [("aud", .string audience),
      ("exp", .int (surroundings.issued.seconds + 60 * settings.issuing.lifetimeMinutes)),
      ("iat", .int surroundings.issued.seconds), ("iss", .string subject),
      ("jti", .string (Uuid.text surroundings.random)), ("sub", .string subject)]

/-- The public keys of the settings can all be put at hand. -/
def Preloads (surroundings : Surroundings) (settings : Settings) : Prop :=
  (Key.LocalService.preload surroundings.files { registry := Key.Registry.standard }
    settings.publicKeys).1 = .ok ()

/-- The settings of a run without a settings file, or settings that a configuration is accepted
with. -/
def Accepted (settings : Settings) : Prop :=
  settings = standardSettings ∨ ∃ words config, Settings.ofConfig words config = .ok settings

/-- What is asked of a run with a curve key so that its token may be expected to be accepted. -/
structure Fair (surroundings : Surroundings) (settings : Settings) (key : P256.PrivateKey) :
    Prop where
  isCurve : surroundings.key = .p256 key
  accepted : Accepted settings
  /-- No other key is pinned than the one that tokens name. -/
  pinned : ∀ id ∈ settings.checking.pinnedKeyId, id = settings.issuing.keyId
  preloads : Preloads surroundings settings
  /-- The calendar has the present less the skew, and the end of the token. -/
  early : firstSecond ≤ surroundings.checked.seconds - settings.checking.skewSeconds
  late : surroundings.issued.seconds + 60 * settings.issuing.lifetimeMinutes ≤ lastSecond
  /-- The token is validated when it is issued or less than a minute later. -/
  ordered : surroundings.issued.nanoseconds ≤ surroundings.checked.nanoseconds
  prompt : surroundings.checked.nanoseconds <
    surroundings.issued.nanoseconds + 60 * nanosPerSecond
  /-- The key yields a signature, and its public half accepts it. -/
  signs : ∃ signature,
    surroundings.scheme.curveSign key (signedOctets surroundings settings) = some signature ∧
    surroundings.scheme.curveVerifies key.point (signedOctets surroundings settings) signature = true

section

variable {surroundings : Surroundings} {settings : Settings} {key : P256.PrivateKey}

theorem Accepted.sensible (accepted : Accepted settings) : settings.Sensible := by
  rcases accepted with rfl | ⟨words, config, loaded⟩
  · exact Settings.objection?_eq_none_iff.mp rfl
  · exact (Settings.ofConfig_eq_ok_iff.mp loaded).2

theorem accepted_of_settingsOf {path : Option String} {configuration : Key.Configuration}
    (loaded : settingsOf surroundings path = .ok (settings, configuration)) :
    Accepted settings := by
  cases path with
  | none =>
      cases loaded
      exact .inl rfl
  | some path =>
      rcases bind_eq_ok_iff.mp loaded with ⟨config, -, checked⟩
      rcases bind_eq_ok_iff.mp checked with ⟨found, made, same⟩
      cases same
      cases taken : Settings.ofConfig surroundings.words config with
      | error fault =>
          rw [taken] at made
          cases made
      | ok settings =>
          rw [taken] at made
          cases made
          exact .inr ⟨_, config, taken⟩

/-! ## The keys -/

theorem exists_privateText (key : P256.PrivateKey) :
    ∃ text, Key.Armoured.writePrivate? (.p256 key) = some text ∧
      Key.Registry.standard.decode text = .ok (.privateKey (.p256 key)) := by
  have admitted : KeyMaterial.Admitted (.privateKey (.p256 key)) := trivial
  refine ⟨_, rfl, Key.decode_text_of_admitted admitted ?_⟩
  simp [Key.texts, Key.Armoured.writePrivate?, Key.writePrivateKey?]

theorem decodePublic_writePublic (key : P256.PrivateKey) :
    Key.Registry.standard.decodePublic (Key.Armoured.writePublic (.p256 key.point)) =
      .ok (.p256 key.point) := by
  have admitted : KeyMaterial.Admitted (.publicKey (.p256 key.point)) := trivial
  exact Key.Registry.decodePublic_eq_ok_iff.mpr
    (Key.decode_text_of_admitted admitted (by simp [Key.texts]))

/-- The signing key is the one in the vault, whatever the configuration says. -/
theorem signingKey_eq_ok {privateText : String} (name : String)
    (configuration : Key.Configuration)
    (decodes : Key.Registry.standard.decode privateText = .ok (.privateKey (.p256 key))) :
    Key.PrivateResolver.ofSource (Key.Source.ofVault (Vault.empty.store name privateText))
      configuration Key.Registry.standard name = .ok (.p256 key) := by
  have held : Key.Source.ofVault (Vault.empty.store name privateText) name = .ok privateText := by
    rw [Key.Source.ofVault, Vault.secret?_store, Function.update_self]
  exact Key.PrivateResolver.ofSource_eq_ok_iff.mpr ⟨privateText, .source held, decodes⟩

/-- The public half of the signing key is at hand, whatever the settings have put there. -/
theorem Preloads.exists_service (preloads : Preloads surroundings settings)
    (isCurve : surroundings.key = .p256 key) (vault : Vault) :
    ∃ service, publicKeysOf surroundings settings vault = .ok service ∧
      Table.find? settings.issuing.keyId service.cache = some (.p256 key.point) := by
  rw [Preloads, Key.LocalService.preload_eq_ok_iff] at preloads
  have loaded : (Key.LocalService.preload surroundings.files
      { registry := Key.Registry.standard, vault } settings.publicKeys).1 = .ok () :=
    Key.LocalService.preload_eq_ok_iff.mpr preloads
  have registered : (Key.LocalService.preload surroundings.files
      { registry := Key.Registry.standard, vault } settings.publicKeys).2.registry =
        Key.Registry.standard := by
    rw [Key.LocalService.preload_eq]
  rw [publicKeysOf]
  generalize Key.LocalService.preload surroundings.files
    { registry := Key.Registry.standard, vault } settings.publicKeys = preloaded
    at loaded registered ⊢
  rcases preloaded with ⟨outcome, service⟩
  obtain rfl : outcome = .ok () := loaded
  have added : service.add settings.issuing.keyId
      (Key.Armoured.writePublic surroundings.key.publicKey) =
        .ok { service with
          cache := Table.insert settings.issuing.keyId (.p256 key.point) service.cache } := by
    rw [Key.LocalService.add_eq, show service.registry = Key.Registry.standard from registered,
      isCurve, PrivateKey.publicKey, decodePublic_writePublic]
    rfl
  exact ⟨_, added, Table.find?_insert_self settings.issuing.keyId _ service.cache⟩

/-! ## The token -/

section

variable {expires : Instant} (ends : expires.seconds =
  surroundings.issued.seconds + 60 * settings.issuing.lifetimeMinutes)

include ends in
theorem draft_eq (key : P256.PrivateKey) :
    Draft.decorated (.p256 key) (Issuer.decorations surroundings.issued expires
        surroundings.random settings.issuing.keyId claims audience) =
      draft surroundings settings := by
  rw [draft, tokenMembers, ← ends]
  rfl

theorem ofMembers_tokenMembers :
    Claims.ofMembers (tokenMembers surroundings settings) =
      validatedClaims surroundings settings :=
  rfl

theorem readsBack_draft : (draft surroundings settings).ReadsBack where
  registered := Validator.registeredReadable_iff.mp rfl
  floats := by simp [draft, tokenMembers, Json.Every, Json.EveryMember, Json.FloatReadsBack]
  shallow := (by decide : 1 ≤ Json.depthLimit)

include ends in
/-- The draft is signed and issued. -/
theorem issue_eq_ok {lifetime : Duration} {signature : Octets}
    (later : surroundings.issued.add? lifetime = some expires)
    (yielded : surroundings.scheme.curveSign key (signedOctets surroundings settings) =
      some signature) :
    Issuer.issue { lifetime, scheme := surroundings.scheme }
        { signingKey := .ok (.p256 key), keyId := some settings.issuing.keyId,
          now := surroundings.issued, random := surroundings.random } claims audience =
      .ok ((draft surroundings settings).decoded signature).compact := by
  have signed : surroundings.scheme.sign .es256 (.p256 key) (signedOctets surroundings settings) =
      .ok signature := by
    rw [SignatureScheme.sign, yielded]
    rfl
  rw [Issuer.issue_of_supplied rfl rfl later, generate_p256, draft_eq ends key]
  exact Draft.sign_eq_ok_iff.mpr ⟨signature, rfl, signed⟩

include ends in
/-- The token of the draft is authentic where the key that it names is the one that signed it. -/
theorem authenticate_draft {resolver : Key.PublicResolver} {signature : Octets}
    (resolves : resolver settings.issuing.keyId = .ok (.p256 key.point))
    (verified : surroundings.scheme.curveVerifies key.point (signedOctets surroundings settings)
      signature = true) :
    Validator.authenticate { scheme := surroundings.scheme } resolver
        ((draft surroundings settings).decoded signature).compact.text =
      .ok (validatedClaims surroundings settings) := by
  have regular : (draft surroundings settings).Regular := by
    rw [← draft_eq ends key]
    exact Draft.regular_decorated (Issuer.regular_decorations
      (by simp [claims, Json.WellFormed, Json.Every, Json.WellFormedAt]))
  have signed : Validator.SignedBy { scheme := surroundings.scheme }
      ((draft surroundings settings).decoded signature) (.p256 key.point) signature :=
    { allowed := (by decide : Algorithm.es256 ∈ Algorithm.allowedByDefault)
      worksWith := rfl
      signature? := Compact.signature?_withSignature _ signature
      verified := verified }
  rw [← ofMembers_tokenMembers]
  exact regular.authenticate_eq_ok readsBack_draft signed resolves

/-! ## The rules -/

theorem rules_eq (skew : Duration) :
    (rules skew).rules context =
      [Rule.expiration skew, Rule.notBefore skew false, Rule.audience audience,
        Rule.issuerEqualsSubject] := by
  simp [rules]

/-- How the token is answered with the second of the present less the skew. -/
def verdict (surroundings : Surroundings) (settings : Settings) (second : Int) :
    Outcome Claims :=
  if second < surroundings.issued.seconds + 60 * settings.issuing.lifetimeMinutes then
    .ok (validatedClaims surroundings settings)
  else .error (.ruleViolation ["Token has expired (exp)"])

include ends in
theorem expiration_validatedClaims {skew : Duration} {now : Instant}
    (later : surroundings.issued.seconds ≤ expires.seconds)
    (shifted : surroundings.checked.sub? skew = some now) :
    Rule.expiration skew { now := surroundings.checked }
        (validatedClaims surroundings settings) =
      if now.seconds < surroundings.issued.seconds + 60 * settings.issuing.lifetimeMinutes then
        .ok ()
      else Rule.object "Token has expired (exp)" := by
  rw [← ends]
  refine Rule.expiration_eq ?_ ?_ shifted
  · rw [← expires.saturateInt64_seconds, ends]
    exact Claims.numeric?_int _
  · have issue : (validatedClaims surroundings settings).number? "iat" =
        some (saturateInt64 surroundings.issued.seconds) := Claims.numeric?_int _
    rw [issue, surroundings.issued.saturateInt64_seconds]
    rintro iat ⟨⟩
    exact later

include ends in
/-- Every rule but the one on expiration passes. -/
theorem checkRules_validatedClaims {skew : Duration} {now : Instant}
    (later : surroundings.issued.seconds ≤ expires.seconds)
    (shifted : surroundings.checked.sub? skew = some now) :
    checkRules ((rules skew).rules context) { now := surroundings.checked }
        (validatedClaims surroundings settings) =
      verdict surroundings settings now.seconds := by
  have notBefore : Rule.notBefore skew false { now := surroundings.checked }
      (validatedClaims surroundings settings) = .ok () :=
    Rule.notBefore_of_missing rfl
  have forAudience : Rule.audience audience { now := surroundings.checked }
      (validatedClaims surroundings settings) = .ok () :=
    Rule.audience_eq_ok_iff.mpr (List.mem_singleton.mpr rfl)
  have selfIssued : Rule.issuerEqualsSubject { now := surroundings.checked }
      (validatedClaims surroundings settings) = .ok () :=
    Rule.issuerEqualsSubject_eq_ok_iff.mpr ⟨subject, by decide, rfl, rfl⟩
  rw [rules_eq, checkRules, verdictsOf_eq_map]
  simp only [List.map_cons, List.map_nil, notBefore, forAudience, selfIssued,
    expiration_validatedClaims ends later shifted, verdict]
  split <;> rfl

/-! ## The run -/

theorem Fair.resolverOf_eq_ok (fair : Fair surroundings settings key) {service : Key.LocalService}
    (cached : Table.find? settings.issuing.keyId service.cache = some (.p256 key.point)) :
    resolverOf settings service settings.issuing.keyId = .ok (.p256 key.point) := by
  have found : service.resolver settings.issuing.keyId = .ok (.p256 key.point) :=
    congrArg Prod.fst (Key.LocalService.resolve_of_cached cached)
  rw [resolverOf]
  cases pinned : settings.checking.pinnedKeyId with
  | none => exact found
  | some id =>
      obtain rfl := fair.pinned id pinned
      exact found

include ends in
/-- The token is issued, and it is up to the rules. -/
theorem Fair.exchange_eq (fair : Fair surroundings settings key)
    (configuration : Key.Configuration) {privateText : String} {lifetime skew : Duration}
    {now : Instant}
    (decodes : Key.Registry.standard.decode privateText = .ok (.privateKey (.p256 key)))
    (later : surroundings.issued.add? lifetime = some expires)
    (shifted : surroundings.checked.sub? skew = some now) :
    exchange surroundings settings configuration privateText lifetime skew =
      verdict surroundings settings now.seconds := by
  rcases fair.preloads.exists_service fair.isCurve
    (Vault.empty.store settings.issuing.keyName privateText) with ⟨service, loaded, cached⟩
  rcases fair.signs with ⟨signature, yielded, verified⟩
  have supplied := signingKey_eq_ok settings.issuing.keyName configuration decodes
  have issued := issue_eq_ok ends later yielded
  have authenticated := authenticate_draft ends (fair.resolverOf_eq_ok cached) verified
  have ordered : surroundings.issued.seconds ≤ expires.seconds := by
    have positive := fair.accepted.sensible.lifetime_pos
    omega
  rw [exchange]
  simp only [loaded, supplied, issued, bind, Except.bind, Validator.validate_eq_bind, authenticated]
  exact checkRules_validatedClaims ends ordered shifted

end

/-- A run is decided by the second of the present less the skew. -/
theorem Fair.runWith_eq (fair : Fair surroundings settings key)
    (configuration : Key.Configuration) :
    runWith surroundings settings configuration =
      (verdict surroundings settings
        (surroundings.checked.seconds - settings.checking.skewSeconds)).mapError Failure.text := by
  have sensible := fair.accepted.sensible
  have forward := sensible.skew_nonneg
  have positive := sensible.lifetime_pos
  have started := surroundings.issued.seconds_mem_calendar
  have present := surroundings.checked.seconds_mem_calendar
  rcases sensible.exists_lifetime with ⟨lifetime, lifetimeMade, minutes⟩
  rcases sensible.exists_skew with ⟨skew, skewMade, seconds⟩
  rcases Instant.exists_add?_of_seconds minutes (by omega) fair.late with ⟨expires, later, ends⟩
  rcases Instant.exists_sub?_of_seconds seconds fair.early (by omega) with ⟨now, shifted, second⟩
  rcases exists_privateText key with ⟨privateText, written, decodes⟩
  have exchanged := fair.exchange_eq ends configuration decodes later shifted
  rw [second] at exchanged
  rw [runWith, fair.isCurve, written]
  simp only [lifetimeMade, skewMade, exchanged, Except.mapError, bind, Except.bind]

theorem run_of_settingsOf {path : Option String} {configuration : Key.Configuration}
    (loaded : settingsOf surroundings path = .ok (settings, configuration)) :
    run surroundings path = runWith surroundings settings configuration := by
  rw [run, loaded]
  rfl

/-- The second that validation compares with the end of the token comes before it. -/
theorem Fair.in_time (fair : Fair surroundings settings key)
    (whole : settings.issuing.lifetimeMinutes = 1 → settings.checking.skewSeconds = 0 →
      surroundings.checked.seconds < surroundings.issued.seconds + 60) :
    surroundings.checked.seconds - settings.checking.skewSeconds <
      surroundings.issued.seconds + 60 * settings.issuing.lifetimeMinutes := by
  have sensible := fair.accepted.sensible
  have forward := sensible.skew_nonneg
  have positive := sensible.lifetime_pos
  have prompt := fair.prompt
  have started := surroundings.issued.seconds_bounds
  have present := surroundings.checked.seconds_bounds
  simp only [nanosPerSecond] at *
  omega

/-- A fair run accepts its own token with exactly the claims that it was issued with.  When the
lifetime is one minute and no skew is tolerated, the token also has to be validated in a second that
is less than sixty after the one it was issued in. -/
theorem run_accepts_own_token (fair : Fair surroundings settings key)
    (whole : settings.issuing.lifetimeMinutes = 1 → settings.checking.skewSeconds = 0 →
      surroundings.checked.seconds < surroundings.issued.seconds + 60) :
    let accepted : Claims :=
      ⟨[("aud", .string "did:web:provider.example"),
        ("exp", .int (surroundings.issued.seconds + 60 * settings.issuing.lifetimeMinutes)),
        ("iat", .int surroundings.issued.seconds), ("iss", .string "did:web:demo.example"),
        ("jti", .string (Uuid.text surroundings.random)),
        ("sub", .string "did:web:demo.example")]⟩
    (∀ configuration, runWith surroundings settings configuration = .ok accepted) ∧
      ∀ path configuration, settingsOf surroundings path = .ok (settings, configuration) →
        run surroundings path = .ok accepted := by
  intro accepted
  have completes : ∀ configuration, runWith surroundings settings configuration = .ok accepted := by
    intro configuration
    rw [fair.runWith_eq, verdict, if_pos (fair.in_time whole)]
    rfl
  refine ⟨completes, fun path configuration loaded => ?_⟩
  rw [run_of_settingsOf loaded]
  exact completes configuration

end

namespace Sample

/-- A settings file that asks for a lifetime of one minute. -/
def files : Files := fun path =>
  if path = "demo.json" then
    .ok (.file (Octets.ofText ("\x7b\"sts\":\x7b\"private_key_alias\":\"k\"," ++
      "\"public_key_id\":\"k\",\"token_expiration_minutes\":1\x7d\x7d")))
  else .error .absent

/-- The settings of this file. -/
def settings : Settings := { issuing := { keyName := "k", keyId := "k", lifetimeMinutes := 1 } }

/-- The signature of the token that is issued half a second after the beginning of 1970. -/
def signature : Octets :=
  Octets.ofNat 64
    (0xdcb94a49a111a4db2e34bfbd5b8d5a6238634fa69c84606a319c2512d13d0437 * 2 ^ 256 +
      0x7a927b65a7f0e10c4071d14c6c9239e66373b456642713328730b51dfabbe4de)

/-- A run with the generator's key that validates at the given instant. -/
def surroundings (checked : Instant) : Surroundings where
  files := files
  environment := []
  words := ⟨"", fun _ => ""⟩
  key := .p256 Token.Sample.key
  unwritten := fun _ => ""
  random := List.replicate 16 0
  scheme := { SignatureScheme.standard .none [] with curveSign := fun _ _ => some signature }
  issued := ⟨500000000, by decide⟩
  checked := checked

theorem verifies_signature (checked : Instant) :
    (surroundings checked).scheme.curveVerifies Token.Sample.key.point
      (signedOctets (surroundings checked) settings) signature = true := by
  have standard : (surroundings checked).scheme.curveVerifies = P256.Point.verifies := rfl
  have same : signedOctets (surroundings checked) settings =
      signedOctets (surroundings Instant.epoch) settings := rfl
  rw [standard, same]
  decide +kernel

theorem exists_settingsOf (checked : Instant) :
    ∃ configuration, settingsOf (surroundings checked) (some "demo.json") =
      .ok (settings, configuration) := by
  have loaded : ((settingsOf (surroundings Instant.epoch) (some "demo.json")).toOption.map
      Prod.fst) = some settings := by decide +kernel
  rcases Option.map_eq_some_iff.mp loaded with ⟨⟨found, configuration⟩, made, rfl⟩
  exact ⟨configuration, toOption_eq_some_iff.mp made⟩

/-- The run is fair when it validates less than a minute after it has issued. -/
theorem fair (checked : Instant) (ordered : 500000000 ≤ checked.nanoseconds)
    (prompt : checked.nanoseconds < 60500000000) :
    Fair (surroundings checked) settings Token.Sample.key where
  isCurve := rfl
  accepted := (exists_settingsOf checked).elim fun _ loaded => accepted_of_settingsOf loaded
  pinned := by simp [settings]
  preloads := rfl
  early := by
    have begun : (0 : Int) ≤ checked.seconds :=
      (Instant.seconds_mono ordered : (surroundings checked).issued.seconds ≤ checked.seconds)
    have calendar : firstSecond ≤ 0 := by decide
    exact Int.le_trans calendar (begun.trans_eq (Int.sub_zero checked.seconds).symm)
  late := (by decide : (0 : Int) + 60 * 1 ≤ lastSecond)
  ordered := ordered
  prompt := prompt
  signs := ⟨signature, rfl, verifies_signature checked⟩

end Sample

/-- Within the first sixty whole seconds the token of one minute is accepted. -/
theorem run_accepts_own_token_sample :
    ∃ claims, run (Sample.surroundings ⟨59900000000, by decide⟩) (some "demo.json") = .ok claims ∧
      claims.number? "exp" = some 60 := by
  rcases Sample.exists_settingsOf ⟨59900000000, by decide⟩ with ⟨configuration, loaded⟩
  have accepted := (run_accepts_own_token (Sample.fair _ (by decide) (by decide))
    fun _ _ => by decide).2 _ _ loaded
  exact ⟨_, accepted, by decide⟩

/-- Less than a minute after it was issued, the token of one minute is refused. -/
theorem refused_within_lifetime :
    let surroundings := Sample.surroundings ⟨60200000000, by decide⟩
    Fair surroundings Sample.settings Token.Sample.key ∧
      (∃ configuration,
        settingsOf surroundings (some "demo.json") = .ok (Sample.settings, configuration)) ∧
      run surroundings (some "demo.json") = .error "Token has expired (exp)" := by
  intro surroundings
  have fair : Fair surroundings Sample.settings Token.Sample.key :=
    Sample.fair _ (by decide) (by decide)
  rcases Sample.exists_settingsOf ⟨60200000000, by decide⟩ with ⟨configuration, loaded⟩
  have expired := fair.runWith_eq configuration
  rw [← run_of_settingsOf loaded] at expired
  exact ⟨fair, ⟨configuration, loaded⟩, expired⟩

end Attest.Demo
