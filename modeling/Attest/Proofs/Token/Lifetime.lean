import Attest.Proofs.Token.Generation
import Attest.Proofs.Token.Rule

/-!
# The lifetime of issued tokens

An issued token names the seconds of its issue and of its end, whatever the caller claims.  The
expiration rule accepts it until the second of its end, so it is refused from the end on, to the
nanosecond, and less than a second before the end at the earliest.  A leeway shifts both.
-/

namespace Attest.Token

variable {claims : Claims} {issued expires : Instant} {lifetime leeway : Duration}
  {circumstances : Circumstances}

/-- The times of issue and expiration that claims name. -/
structure Claims.Spans (claims : Claims) (issued expires : Instant) : Prop where
  issuedAt : claims.number? "iat" = some issued.seconds
  expiresAt : claims.number? "exp" = some expires.seconds

/-- How the expiration rule sees claims that were issued at an instant for a lifetime. -/
structure Claims.LivesFor (claims : Claims) (issued : Instant) (lifetime : Duration)
    (expires : Instant) : Prop where
  /-- The claims name the seconds of the issue and of the end. -/
  spans : claims.Spans issued expires
  /-- The seconds between issue and end are the lifetime but for less than a second. -/
  rounded : |(expires.seconds - issued.seconds) * nanosPerSecond - lifetime.nanoseconds| <
    nanosPerSecond
  /-- They are exactly the lifetime when it has whole seconds. -/
  whole : nanosPerSecond ∣ lifetime.nanoseconds →
    (expires.seconds - issued.seconds) * nanosPerSecond = lifetime.nanoseconds
  /-- The claims are accepted until the second of the end. -/
  accepted_iff : ∀ (leeway : Duration) (circumstances : Circumstances) (now : Instant),
    circumstances.now.sub? leeway = some now →
      (Rule.expiration leeway circumstances claims = .ok () ↔ now.seconds < expires.seconds)
  /-- They are never accepted once the lifetime and the leeway are over. -/
  refused : ∀ (leeway : Duration) (circumstances : Circumstances),
    issued.nanoseconds + lifetime.nanoseconds + leeway.nanoseconds ≤
        circumstances.now.nanoseconds →
      Rule.expiration leeway circumstances claims ≠ .ok ()
  /-- They are always accepted up to a second before that. -/
  accepted : ∀ (leeway : Duration) (circumstances : Circumstances) (now : Instant),
    circumstances.now.sub? leeway = some now →
      circumstances.now.nanoseconds <
          issued.nanoseconds + lifetime.nanoseconds + leeway.nanoseconds - nanosPerSecond →
        Rule.expiration leeway circumstances claims = .ok ()

/-! ## Claims that name their times -/

namespace Claims

/-- The rule compares seconds, since the end is not before the issue. -/
theorem Spans.expiration_iff (spans : claims.Spans issued expires)
    (ordered : issued.nanoseconds ≤ expires.nanoseconds) {now : Instant}
    (shifted : circumstances.now.sub? leeway = some now) :
    Rule.expiration leeway circumstances claims = .ok () ↔ now.seconds < expires.seconds := by
  rw [Rule.expiration_eq_ok_iff, spans.expiresAt, spans.issuedAt, shifted]
  constructor
  · rintro ⟨exp, other, ⟨⟩, ⟨⟩, before, -⟩
    exact before
  · intro before
    refine ⟨expires.seconds, now, rfl, rfl, before, ?_⟩
    rintro iat ⟨⟩
    exact Instant.seconds_mono ordered

/-- Claims that name the seconds of their issue and of their end live for the lifetime. -/
theorem Spans.livesFor (spans : claims.Spans issued expires)
    (forward : 0 ≤ lifetime.nanoseconds) (later : issued.add? lifetime = some expires) :
    claims.LivesFor issued lifetime expires := by
  have span := Instant.add?_eq_some_iff.mp later
  have ordered : issued.nanoseconds ≤ expires.nanoseconds := by omega
  have elapsed : expires.nanoseconds - issued.nanoseconds = lifetime.nanoseconds := by omega
  constructor
  case spans => exact spans
  case rounded =>
    rw [← elapsed]
    exact Instant.abs_seconds_sub_lt issued expires
  case whole =>
    rw [← elapsed]
    exact Instant.seconds_sub_mul_of_dvd
  case accepted_iff =>
    intro leeway circumstances now shifted
    exact spans.expiration_iff ordered shifted
  case refused =>
    intro leeway circumstances late accepted
    rcases Rule.expiration_eq_ok_iff.mp accepted with ⟨-, now, -, shifted, -⟩
    have earlier := Instant.sub?_eq_some_iff.mp shifted
    have before := (spans.expiration_iff ordered shifted).mp accepted
    have after : expires.seconds ≤ now.seconds := Instant.seconds_mono (by omega)
    omega
  case accepted =>
    intro leeway circumstances now shifted early
    have earlier := Instant.sub?_eq_some_iff.mp shifted
    apply (spans.expiration_iff ordered shifted).mpr
    apply Instant.seconds_lt_of_add_le
    omega

/-- A claim with the second of an instant is read as this second. -/
theorem Holds.number?_eq {members : List (String × Json)} (holds : claims.Holds members)
    (distinct : (Table.keys members).Nodup) {name : String} {t : Instant}
    (found : Table.find? name members = some (.int t.seconds)) :
    claims.number? name = some t.seconds := by
  rw [number?, holds.find?_eq, Table.find?_reverse_of_nodup name distinct, found]
  exact (numeric?_int t.seconds).trans (congrArg some t.saturateInt64_seconds)

end Claims

/-! ## Issued claims -/

namespace Issuer

variable {key : PrivateKey} {random : Octets} {keyId audience : String}
  {caller : List (String × Json)}

/-- The claims of an issued token: those of the caller, replaced by the standard ones. -/
def issuedMembers (issued expires : Instant) (random : Octets) (caller : List (String × Json))
    (audience : String) : Table Json :=
  Table.insertAll (Table.ofEntries caller)
    (Decoration.standardMembers issued expires audience (Uuid.text random))

/-- The draft of an issued token has the header of its key and the issued claims. -/
theorem decorated_decorations (key : PrivateKey) (issued expires : Instant) (random : Octets)
    (keyId : String) (caller : List (String × Json)) (audience : String) :
    Draft.decorated key (decorations issued expires random keyId caller audience) =
      ⟨.naming (Algorithm.preferred key.family) (some "JWT") (some keyId),
        issuedMembers issued expires random caller audience⟩ :=
  rfl

theorem nodup_keys_issuedMembers :
    (Table.keys (issuedMembers issued expires random caller audience)).Nodup :=
  Table.nodup_keys_insertAll _ (Table.nodup_keys_ofEntries caller)

/-- Whatever the caller claims, the times are those of the issuer. -/
theorem spans_of_holds
    (holds : claims.Holds (issuedMembers issued expires random caller audience)) :
    claims.Spans issued expires := by
  constructor
  · apply holds.number?_eq nodup_keys_issuedMembers
    rw [issuedMembers, Table.find?_insertAll]
    rfl
  · apply holds.number?_eq nodup_keys_issuedMembers
    rw [issuedMembers, Table.find?_insertAll]
    rfl

end Issuer

/-- The claims with which the text of a signed draft is accepted are those of the draft. -/
theorem Draft.Regular.holds_of_validate {draft : Draft} (regular : draft.Regular)
    (floats : (Json.object draft.claims).Every Json.FloatReadsBack)
    (shallow : (Json.object draft.claims).nesting ≤ Json.depthLimit) {signature : Octets}
    {validator : Validator} {resolver : Key.PublicResolver} {rules : List Rule}
    (accepted : validator.validate resolver rules circumstances
      (draft.decoded signature).compact.text = .ok claims) :
    claims.Holds draft.claims := by
  have numbers : (Json.object draft.claims).Every Json.NumberReadsBack :=
    Json.Every.imp₂ Json.numberReadsBack_of_wellFormedAt regular.claims floats
  have settled : Json.settleMembers draft.claims = draft.claims :=
    Json.settleMembers_of_wellFormed regular.claims.2
  rcases regular.header with ⟨algorithm, typ, kid, plain⟩
  have decodes : Validator.decode? (draft.decoded signature).compact.text =
      some (draft.decoded signature) := by
    rw [decoded, plain]
    exact Validator.decode?_signed numbers shallow algorithm typ kid signature
  rcases Validator.validate_eq_ok_iff.mp accepted with ⟨authenticated, -⟩
  rcases Validator.authenticate_eq_ok_iff.mp authenticated with ⟨found, key, read, -, -, rfl⟩
  rw [decodes] at read
  rcases Option.some.inj read with rfl
  have holds : (Validator.claimsOf (draft.decoded signature)).Holds
      (Json.settleMembers draft.claims) := Validator.holds_claimsOf (draft.decoded signature)
  rwa [settled] at holds

/-- A token lives for the lifetime that its issuer is configured with, whatever the caller claims:
so do the claims of its payload, and with them those that any validation accepts it with. -/
theorem lifetime_of_issued {issuer : Issuer} {supplies : Supplies}
    {caller : List (String × Json)} {audience : String} {token : Compact}
    (forward : 0 ≤ issuer.lifetime.nanoseconds)
    (issued : issuer.issue supplies caller audience = .ok token) :
    ∃ expires : Instant, supplies.now.add? issuer.lifetime = some expires ∧
      let members :=
        Issuer.issuedMembers supplies.now expires supplies.random caller audience
      token.payload = Compact.segment (.object members) ∧
      (∀ claims : Claims, claims.Holds members →
        claims.LivesFor supplies.now issuer.lifetime expires) ∧
      ((∀ member ∈ caller, Json.WellFormed member.2) →
        (Json.object members).Every Json.FloatReadsBack →
        (Json.object members).nesting ≤ Json.depthLimit →
        ∀ (validator : Validator) resolver rules circumstances claims,
          validator.validate resolver rules circumstances token.text = .ok claims →
          claims.LivesFor supplies.now issuer.lifetime expires) := by
  rcases Issuer.generate_of_issue_eq_ok issued with
    ⟨key, keyId, expires, -, -, later, generated⟩
  rcases Draft.exists_signature_of_sign_eq_ok (sign_of_generate_eq_ok generated) with
    ⟨signature, rfl, -⟩
  refine ⟨expires, later, rfl, ?_, ?_⟩
  · intro claims holds
    exact (Issuer.spans_of_holds holds).livesFor forward later
  · intro wellFormed floats shallow validator resolver rules circumstances claims accepted
    have regular : (Draft.decorated key (Issuer.decorations supplies.now expires supplies.random
        keyId caller audience)).Regular :=
      Draft.regular_decorated (Issuer.regular_decorations wellFormed)
    have holds := regular.holds_of_validate floats shallow accepted
    exact (Issuer.spans_of_holds holds).livesFor forward later

namespace Sample

/-- The issued token is accepted by the validator that knows its signature. -/
theorem exists_validated :
    ∃ claims, Validator.validate { scheme := schemeOf issuedDraft issuedSignature } resolver []
      ⟨Instant.epoch, []⟩ ((Compact.unsigned issuedDraft.header
        issuedDraft.claims).withSignature issuedSignature).text = .ok claims := by
  have regular : issuedDraft.Regular :=
    Draft.regular_decorated (Issuer.regular_decorations
      (by simp [Json.WellFormed, Json.Every, Json.WellFormedAt]))
  have carried := regular.carriedBy (soundFor_key issuedDraft issuedSignature)
    (sign_eq_ok rfl issuedSignature)
  rcases carried.accepted readsBack_issuedDraft resolver ⟨Instant.epoch, []⟩ rfl with
    ⟨claims, validated, -⟩
  exact ⟨claims, validated⟩

end Sample

/-- A token that is issued for five minutes at the beginning of 1970 is validated with claims that
end at the second three hundred. -/
theorem lifetime_of_issued_sample :
    ∃ token expires claims,
      Issuer.issue ⟨Duration.fiveMinutes, Sample.schemeOf Sample.issuedDraft
        Sample.issuedSignature⟩ Sample.supplies [("sub", .string "alice")] "bob" = .ok token ∧
      Validator.validate { scheme := Sample.schemeOf Sample.issuedDraft Sample.issuedSignature }
        Sample.resolver [] ⟨Instant.epoch, []⟩ token.text = .ok claims ∧
      Instant.seconds expires = 300 ∧
      claims.LivesFor Instant.epoch Duration.fiveMinutes expires := by
  have forward : 0 ≤ Duration.fiveMinutes.nanoseconds := by decide
  rcases Sample.exists_validated with ⟨claims, validated⟩
  rcases lifetime_of_issued forward Sample.issue_eq_ok with ⟨expires, later, -, -, lives⟩
  cases later
  refine ⟨_, _, claims, Sample.issue_eq_ok, validated, ?_, lives ?_ ?_ ?_ _ _ _ _ _ validated⟩
  · rfl
  · simp [Json.WellFormed, Json.Every, Json.WellFormedAt]
  · exact Sample.readsBack_issuedDraft.floats
  · exact Sample.readsBack_issuedDraft.shallow

end Attest.Token
