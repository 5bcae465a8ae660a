import Attest.Clock
import Attest.Token.Generation
import Attest.Uuid

/-!
# Issuing tokens

An issuer signs tokens with a lifetime.  The signing key and its identifier are
asked for on every call, so a key that is replaced takes effect at once.  Whatever
goes wrong, the failure is one of issuance.
-/

namespace Attest.Token

/-- What an issuer is configured with. -/
structure Issuer where
  /-- The lifetime of tokens. -/
  lifetime : Duration := Duration.fiveMinutes
  /-- How tokens are signed. -/
  scheme : SignatureScheme

/-- What is supplied for one token. -/
structure Supplies where
  /-- The signing key, or why there is none. -/
  signingKey : Outcome PrivateKey
  /-- The identifier of the key. -/
  keyId : Option String
  /-- The present instant. -/
  now : Instant
  /-- Random octets for the identifier of the token. -/
  random : Octets

namespace Issuer

/-- The failure of a key supply. -/
def withoutKey (cause : Failure) : Failure :=
  .issuance ("Failed to obtain signing key: " ++ cause.text)

/-- The failure of an absent identifier of the key. -/
def withoutKeyId : Failure :=
  .issuance "No key ID available for token signing"

/-- The failure of a lifetime that leads out of the calendar. -/
def lifetimeOutOfRange (lifetime : Duration) : Failure :=
  .issuance ("Token lifetime of " ++ toString lifetime.seconds ++ " seconds is out of range")

/-- The decorations of an issued token; the standard claims come after the claims of
the caller and replace them. -/
def decorations (issued expires : Instant) (random : Octets) (keyId : String)
    (claims : List (String × Json)) (audience : String) : List Decoration :=
  [Decoration.claims claims, Decoration.standard issued expires audience (Uuid.text random),
    Decoration.keyId keyId]

/-- Issue a token. -/
def issue (issuer : Issuer) (supplies : Supplies) (claims : List (String × Json))
    (audience : String) : Outcome Compact :=
  match supplies.signingKey with
  | .error cause => .error (withoutKey cause)
  | .ok key =>
      match supplies.keyId with
      | none => .error withoutKeyId
      | some keyId =>
          match supplies.now.add? issuer.lifetime with
          | none => .error (lifetimeOutOfRange issuer.lifetime)
          | some expires =>
              generate issuer.scheme key
                (decorations supplies.now expires supplies.random keyId claims audience)

/-- How an issuer with a clock is shown. -/
def shown (issuer : Issuer) (clock : Clock) : String :=
  Text.shownPartly "EmbeddedSecureTokenService"
    [("clock", clock.shown), ("ttl_seconds", toString issuer.lifetime.seconds)]

end Issuer

end Attest.Token
