import Attest.Proofs.Token.HandedKey
import Attest.Proofs.Token.Lifetime

/-!
# Why no token is issued

Five things can stand in the way of a token, several of them at the same time: there is no signing
key, no identifier of the key, no instant at which the token would expire, no form in which the key
can be handed to a signer, or no signature.  The first one in this order decides how the issuer
fails, and whatever it is, the failure is one of issuance.
-/

namespace Attest.Token

/-! ## Signing by default -/

namespace SignatureScheme

/-- The signature that a key yields under the algorithm that it prefers. -/
def preferred? (scheme : SignatureScheme) : PrivateKey → Octets → Option Octets
  | .p256 key, message => scheme.curveSign key message
  | .rsa key, message => scheme.rsaSign key .named .sha256 message

theorem sign_preferred (scheme : SignatureScheme) (key : PrivateKey) (message : Octets) :
    scheme.sign (Algorithm.preferred key.family) key message =
      signed (scheme.words.unsigned (Algorithm.preferred key.family) key)
        (scheme.preferred? key message) := by
  cases key <;> rfl

end SignatureScheme

namespace Issuer

variable {issuer : Issuer} {supplies : Supplies} {claims : List (String × Json)}
  {audience : String} {failure : Failure}

/-- What is signed of an issued token. -/
def signedOctets (key : PrivateKey) (supplies : Supplies) (expires : Instant) (keyId : String)
    (claims : List (String × Json)) (audience : String) : Octets :=
  (Compact.unsigned (.naming (Algorithm.preferred key.family) (some "JWT") (some keyId))
    (issuedMembers supplies.now expires supplies.random claims audience)).signedOctets

/-- With everything at hand it is up to the key whether there is a token. -/
theorem sign_decorated (scheme : SignatureScheme) (key : PrivateKey) (supplies : Supplies)
    (expires : Instant) (keyId : String) (claims : List (String × Json)) (audience : String) :
    (Draft.decorated key (decorations supplies.now expires supplies.random keyId claims
        audience)).sign scheme key =
      match scheme.preferred? key (signedOctets key supplies expires keyId claims audience) with
      | some signature =>
          .ok ((Compact.unsigned
            (.naming (Algorithm.preferred key.family) (some "JWT") (some keyId))
            (issuedMembers supplies.now expires supplies.random claims audience)).withSignature
              signature)
      | none => .error (.issuance ("Failed to sign token: " ++
          scheme.words.unsigned (Algorithm.preferred key.family) key)) := by
  have signs := scheme.sign_preferred key (signedOctets key supplies expires keyId claims audience)
  rw [decorated_decorations, Draft.sign]
  simp only [Header.naming, signedOctets] at signs ⊢
  rw [signs]
  cases scheme.preferred? key _ <;> rfl

/-! ## Obstacles -/

/-- What a token needs. -/
inductive Need where
  | key
  | keyId
  | expiry
  | form
  | signature
  deriving DecidableEq, Repr

/-- The order in which it is asked for. -/
def Need.rank : Need → Nat
  | .key => 0
  | .keyId => 1
  | .expiry => 2
  | .form => 3
  | .signature => 4

theorem Need.rank_injective : Function.Injective Need.rank := by
  intro need other same
  cases need <;> cases other <;> first | rfl | cases same

/-- What stands in the way of a token, and the failure that it leads to when nothing else does.
No obstacle but the last needs another one to be absent. -/
inductive Obstacle (issuer : Issuer) (supplies : Supplies) (claims : List (String × Json))
    (audience : String) : Need → Failure → Prop
  /-- The supply of the key fails, in whatever way. -/
  | key {cause : Failure} (missing : supplies.signingKey = .error cause) :
      Obstacle issuer supplies claims audience .key
        (.issuance ("Failed to obtain signing key: " ++ cause.text))
  | keyId (missing : supplies.keyId = none) :
      Obstacle issuer supplies claims audience .keyId
        (.issuance "No key ID available for token signing")
  /-- The lifetime leads out of the calendar. -/
  | expiry (beyond :
        ¬Instant.Representable (supplies.now.nanoseconds + issuer.lifetime.nanoseconds)) :
      Obstacle issuer supplies claims audience .expiry (.issuance
        ("Token lifetime of " ++ toString issuer.lifetime.seconds ++ " seconds is out of range"))
  /-- The key cannot be encoded, as is said by what writes it; every curve key can. -/
  | form {key : Rsa.PrivateKey} (supplied : supplies.signingKey = .ok (.rsa key))
      (unwritable : Key.writeRsaPrivateKey? key = none) :
      Obstacle issuer supplies claims audience .form
        (.issuance ("Failed to encode RSA signing key: " ++ issuer.scheme.words.unwritten key))
  /-- The key does not sign, as is said by the signer. -/
  | signature {key : PrivateKey} {keyId : String} {expires : Instant}
      (supplied : supplies.signingKey = .ok key) (named : supplies.keyId = some keyId)
      (later : supplies.now.add? issuer.lifetime = some expires)
      (unsigned : issuer.scheme.preferred? key
        (signedOctets key supplies expires keyId claims audience) = none) :
      Obstacle issuer supplies claims audience .signature
        (.issuance ("Failed to sign token: " ++
          issuer.scheme.words.unsigned (Algorithm.preferred key.family) key))

namespace Obstacle

variable {need : Need} {other : Failure}

/-- An obstacle leads to one failure. -/
theorem unique (first : issuer.Obstacle supplies claims audience need failure)
    (second : issuer.Obstacle supplies claims audience need other) : failure = other := by
  cases first with
  | key missing =>
      cases second with
      | key missing' =>
          cases missing.symm.trans missing'
          rfl
  | keyId | expiry =>
      cases second
      rfl
  | form supplied =>
      cases second with
      | form supplied' =>
          cases supplied.symm.trans supplied'
          rfl
  | signature supplied =>
      cases second with
      | signature supplied' =>
          cases supplied.symm.trans supplied'
          rfl

theorem category_eq (obstacle : issuer.Obstacle supplies claims audience need failure) :
    failure.category = "issuance_failure" := by
  cases obstacle <;> rfl

end Obstacle

/-! ## No obstacles -/

variable {key : PrivateKey} {keyId : String} {expires : Instant} {handed : SigningKey}
  {need : Need}

theorem not_obstacle_key (supplied : supplies.signingKey = .ok key) :
    ¬issuer.Obstacle supplies claims audience .key failure := by
  intro obstacle
  cases obstacle with
  | key missing => cases supplied.symm.trans missing

theorem not_obstacle_keyId (named : supplies.keyId = some keyId) :
    ¬issuer.Obstacle supplies claims audience .keyId failure := by
  intro obstacle
  cases obstacle with
  | keyId missing => cases named.symm.trans missing

theorem not_obstacle_expiry (later : supplies.now.add? issuer.lifetime = some expires) :
    ¬issuer.Obstacle supplies claims audience .expiry failure := by
  intro obstacle
  cases obstacle with
  | expiry beyond => cases later.symm.trans (Instant.add?_eq_none_iff.mpr beyond)

theorem not_obstacle_form (supplied : supplies.signingKey = .ok key)
    (given : SigningKey.ofPrivate issuer.scheme.words.unwritten key = .ok handed) :
    ¬issuer.Obstacle supplies claims audience .form failure := by
  intro obstacle
  cases obstacle with
  | form supplied' unwritable =>
      cases supplied.symm.trans supplied'
      rw [SigningKey.ofPrivate, unwritable] at given
      cases given

/-- Nothing stood in the way of an issued token. -/
theorem not_obstacle_of_issue_eq_ok {token : Compact}
    (issued : issuer.issue supplies claims audience = .ok token) :
    ¬issuer.Obstacle supplies claims audience need failure := by
  obtain ⟨key, keyId, expires, supplied, named, later, generated⟩ :=
    generate_of_issue_eq_ok issued
  obtain ⟨⟨handed, given⟩, signed⟩ := generate_eq_ok_iff.mp generated
  cases need with
  | key => exact not_obstacle_key supplied
  | keyId => exact not_obstacle_keyId named
  | expiry => exact not_obstacle_expiry later
  | form => exact not_obstacle_form supplied given
  | signature =>
      intro obstacle
      cases obstacle with
      | signature supplied' named' later' unsigned =>
          cases supplied.symm.trans supplied'
          cases named.symm.trans named'
          cases later.symm.trans later'
          rw [sign_decorated, unsigned] at signed
          cases signed

/-! ## The first obstacle -/

/-- Nothing of lower rank stands in the way. -/
def ClearBefore (issuer : Issuer) (supplies : Supplies) (claims : List (String × Json))
    (audience : String) (need : Need) : Prop :=
  ∀ earlier other, earlier.rank < need.rank →
    ¬issuer.Obstacle supplies claims audience earlier other

theorem clearBefore_key : issuer.ClearBefore supplies claims audience .key :=
  fun _ _ before => absurd before (Nat.not_lt_zero _)

/-- What is clear before a need is clear before the next one, if that need is met. -/
theorem ClearBefore.next {following : Need}
    (clear : issuer.ClearBefore supplies claims audience need)
    (met : ∀ failure, ¬issuer.Obstacle supplies claims audience need failure)
    (follows : following.rank = need.rank + 1) :
    issuer.ClearBefore supplies claims audience following := by
  intro earlier other before
  rw [follows, Nat.lt_succ_iff_lt_or_eq] at before
  rcases before with before | same
  · exact clear earlier other before
  · cases Need.rank_injective same
    exact met other

theorem clearBefore_keyId (supplied : supplies.signingKey = .ok key) :
    issuer.ClearBefore supplies claims audience .keyId :=
  clearBefore_key.next (fun _ => not_obstacle_key supplied) rfl

theorem clearBefore_expiry (supplied : supplies.signingKey = .ok key)
    (named : supplies.keyId = some keyId) :
    issuer.ClearBefore supplies claims audience .expiry :=
  (clearBefore_keyId supplied).next (fun _ => not_obstacle_keyId named) rfl

theorem clearBefore_form (supplied : supplies.signingKey = .ok key)
    (named : supplies.keyId = some keyId)
    (later : supplies.now.add? issuer.lifetime = some expires) :
    issuer.ClearBefore supplies claims audience .form :=
  (clearBefore_expiry supplied named).next (fun _ => not_obstacle_expiry later) rfl

/-- An issuer that fails does so at the first obstacle. -/
theorem exists_first_obstacle (fails : issuer.issue supplies claims audience = .error failure) :
    ∃ need, issuer.Obstacle supplies claims audience need failure ∧
      issuer.ClearBefore supplies claims audience need := by
  cases issue_eq_error_iff.mp fails with
  | key missing => exact ⟨.key, .key missing, clearBefore_key⟩
  | keyId supplied missing =>
      exact ⟨.keyId, .keyId missing, clearBefore_keyId supplied⟩
  | lifetime supplied named beyond =>
      exact ⟨.expiry, .expiry (Instant.add?_eq_none_iff.mp beyond),
        clearBefore_expiry supplied named⟩
  | @generating key keyId expires _ supplied named later fails =>
      have clear : issuer.ClearBefore supplies claims audience .form :=
        clearBefore_form supplied named later
      rcases generate_eq_error_iff.mp fails with refused | ⟨⟨handed, given⟩, unsigned⟩
      · obtain ⟨rsaKey, rfl, unwritable, rfl⟩ := SigningKey.ofPrivate_eq_error_iff.mp refused
        exact ⟨.form, .form supplied unwritable, clear⟩
      · rw [sign_decorated] at unsigned
        split at unsigned
        · cases unsigned
        · next yieldless =>
            cases unsigned
            exact ⟨.signature, .signature supplied named later yieldless,
              clear.next (fun _ => not_obstacle_form supplied given) rfl⟩

/-- An issuer fails when anything stands in the way. -/
theorem exists_issue_eq_error_iff :
    (∃ failure, issuer.issue supplies claims audience = .error failure) ↔
      ∃ need failure, issuer.Obstacle supplies claims audience need failure := by
  constructor
  · rintro ⟨failure, fails⟩
    obtain ⟨need, obstacle, -⟩ := exists_first_obstacle fails
    exact ⟨need, failure, obstacle⟩
  · rintro ⟨need, failure, obstacle⟩
    cases issued : issuer.issue supplies claims audience with
    | ok token => exact absurd obstacle (not_obstacle_of_issue_eq_ok issued)
    | error failure => exact ⟨failure, rfl⟩

theorem ClearBefore.le {other : Need} (clear : issuer.ClearBefore supplies claims audience need)
    (obstacle : issuer.Obstacle supplies claims audience other failure) : need.rank ≤ other.rank :=
  Nat.not_lt.mp fun before => clear other failure before obstacle

/-- The first obstacle decides how an issuer fails. -/
theorem issue_eq_error_iff_first_obstacle :
    issuer.issue supplies claims audience = .error failure ↔
      ∃ need, issuer.Obstacle supplies claims audience need failure ∧
        issuer.ClearBefore supplies claims audience need := by
  refine ⟨exists_first_obstacle, ?_⟩
  rintro ⟨need, obstacle, clear⟩
  obtain ⟨other, fails⟩ := exists_issue_eq_error_iff.mpr ⟨need, failure, obstacle⟩
  obtain ⟨first, decides, clear'⟩ := exists_first_obstacle fails
  -- Two first obstacles have one rank, and so they are the same one.
  obtain rfl := Need.rank_injective (Nat.le_antisymm (clear.le decides) (clear'.le obstacle))
  rw [obstacle.unique decides]
  exact fails

/-- When the end of a token is in the calendar, its lifetime is not to blame, whatever else stands
in the way. -/
theorem issue_ne_lifetimeOutOfRange
    (later : supplies.now.add? issuer.lifetime = some expires)
    (claims : List (String × Json)) (audience : String) (span : Duration) :
    issuer.issue supplies claims audience ≠ .error (lifetimeOutOfRange span) := by
  intro fails
  obtain ⟨need, obstacle, -⟩ := exists_first_obstacle fails
  generalize blamed : lifetimeOutOfRange span = failure at obstacle
  cases obstacle with
  | expiry beyond => cases later.symm.trans (Instant.add?_eq_none_iff.mpr beyond)
  | key | keyId | form | signature =>
      -- The other failures start in other words.
      simp [lifetimeOutOfRange, String.append_assoc, ← String.toList_inj] at blamed

/-- How an issuer fails. -/
structure FailsInOrder (issuer : Issuer) (supplies : Supplies) (claims : List (String × Json))
    (audience : String) : Prop where
  /-- It fails when anything stands in the way. -/
  fails_iff : (∃ failure, issuer.issue supplies claims audience = .error failure) ↔
    ∃ need failure, issuer.Obstacle supplies claims audience need failure
  /-- The first obstacle decides which failure it is. -/
  failure_iff : ∀ failure, issuer.issue supplies claims audience = .error failure ↔
    ∃ need, issuer.Obstacle supplies claims audience need failure ∧
      ∀ earlier other, earlier.rank < need.rank →
        ¬issuer.Obstacle supplies claims audience earlier other
  /-- For each obstacle there is only one. -/
  unique : ∀ need failure other, issuer.Obstacle supplies claims audience need failure →
    issuer.Obstacle supplies claims audience need other → failure = other
  /-- It is of the kind of issuance, of whatever kind its cause may be. -/
  category : ∀ failure, issuer.issue supplies claims audience = .error failure →
    failure.category = "issuance_failure"

/-- Whatever is supplied and claimed, an issuer fails at the first obstacle, and fails to issue. -/
theorem failsInOrder_issue (issuer : Issuer) (supplies : Supplies) (claims : List (String × Json))
    (audience : String) : issuer.FailsInOrder supplies claims audience := by
  constructor
  case fails_iff => exact exists_issue_eq_error_iff
  case failure_iff => exact fun failure => issue_eq_error_iff_first_obstacle
  case unique => exact fun need failure other => Obstacle.unique
  case category =>
    intro failure fails
    obtain ⟨need, obstacle, -⟩ := exists_first_obstacle fails
    exact obstacle.category_eq

/-- Without a key and without its identifier, the violations that are the cause are reported. -/
example (scheme : SignatureScheme) :
    issue { scheme } ⟨.error (.ruleViolation ["a", "b"]), none, .epoch, []⟩ [] "bob" =
      .error (.issuance "Failed to obtain signing key: a; b") := by
  rfl

end Issuer

end Attest.Token
