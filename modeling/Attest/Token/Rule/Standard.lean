import Attest.Text.Shown
import Attest.Token.Rule

/-!
# Standard rules

The rules on the registered claims: expiration and start of validity, both with
a leeway for clocks that differ, audience, issuer, self-issued tokens, and the
presence of claims.  Every objection of these rules has at least one message.
-/

namespace Attest.Token.Rule

/-- Objects with one message. -/
def object (message : String) : Verdict :=
  .error (.single message)

/-- The message of a leeway that leads out of the calendar. -/
def leewayOutOfRange : String := "Clock skew leeway is out of range"

/-- The token has an expiration time, which lies after the present instant less
the leeway and not before the time of issue. -/
def expiration (leeway : Duration) : Rule := fun circumstances claims =>
  match claims.number? "exp" with
  | none => object "Required expiration time (exp) claim is missing in token"
  | some exp =>
      match circumstances.now.sub? leeway with
      | none => object leewayOutOfRange
      | some now =>
          if exp ≤ now.seconds then object "Token has expired (exp)"
          else
            match claims.number? "iat" with
            | some iat =>
                if exp < iat then
                  object "Issued at (iat) claim is after expiration time (exp) claim in token"
                else .ok ()
            | none => .ok ()

/-- The validity of the token starts no later than the present instant plus the
leeway.  A token without a start is valid from ever, unless one is required. -/
def notBefore (leeway : Duration) (required : Bool) : Rule := fun circumstances claims =>
  match claims.number? "nbf" with
  | none =>
      if required then object "Required not before (nbf) claim is missing in token"
      else .ok ()
  | some nbf =>
      match circumstances.now.add? leeway with
      | none => object leewayOutOfRange
      | some latest =>
          if latest.seconds < nbf then
            object "Current date/time with leeway before the not before (nbf) claim in token"
          else .ok ()

/-- The audiences that an audience claim names. -/
def audiences : Option Json → List String
  | some (.string audience) => [audience]
  | some (.array values) => values.filterMap Json.string?
  | _ => []

/-- The token is meant for the expected audience. -/
def audience (expected : String) : Rule := fun _ claims =>
  let named := audiences (claims.find? "aud")
  if named.contains expected then .ok ()
  else
    object ("Token audience claim (aud -> " ++ Text.quotedList named ++
      ") did not contain expected audience: " ++ expected)

/-- The token was issued by the expected issuer. -/
def issuer (expected : String) : Rule := fun _ claims =>
  if claims.string? "iss" = some expected then .ok ()
  else object ("Issuer (iss) claim is not '" ++ expected ++ "'")

/-- The issuer speaks of itself. -/
def issuerEqualsSubject : Rule := fun _ claims =>
  match claims.string? "iss", claims.string? "sub" with
  | some iss, some sub =>
      if iss ≠ "" ∧ iss = sub then .ok ()
      else object "The iss and sub claims must be non-empty and identical."
  | _, _ => object "The iss and sub claims must be non-empty and identical."

/-- The token has all the claims that are named. -/
def requiredClaims (names : List String) : Rule := fun _ claims =>
  match names.filter fun name => !claims.has name with
  | [] => .ok ()
  | missing =>
      .error ⟨missing.map fun name => "Required claim '" ++ name ++ "' is missing"⟩

/-- How the rule on the audience is shown. -/
def shownAudience (expected : String) : String :=
  Text.shownRecord "AudienceRule" [("expected", Text.quoted expected)]

/-- How the rule on the presence of claims is shown. -/
def shownRequired (names : List String) : String :=
  Text.shownRecord "RequiredClaimsRule" [("names", Text.quotedList names)]

end Attest.Token.Rule
