import Attest.Key.Resolver
import Attest.Token.Compact
import Attest.Token.HandedKey
import Attest.Token.Rule
import Attest.Token.Signature

/-!
# Validating tokens

Validation has four phases and stops at the first that fails.  The token is
decoded; the key that its header names is resolved; the signature is verified,
provided that the algorithm is allowed and works with the key; and every rule is
applied to the claims.  A failure of the second phase is the resolver's own.
The phases are written for a resolver and rules that act, in whatever monad, so that
they also say when each of them is called; those that do nothing but answer are the
case of no effects.
-/

namespace Attest.Token

/-- What validation is configured with. -/
structure Validator where
  /-- The algorithms that a token may be signed with. -/
  allowed : List Algorithm := Algorithm.allowedByDefault
  /-- How signatures are verified. -/
  scheme : SignatureScheme := .standard .none []

/-- A token whose header and payload are decoded. -/
structure Decoded where
  compact : Compact
  header : Header
  /-- The members of the payload, repeated ones kept. -/
  payload : List (String × Json)

namespace Validator

/-- The failure of a token that cannot be decoded. -/
def undecodable : Failure := .parse "Failed to decode token"

/-- The failure of a token whose signature does not hold. -/
def unverified : Failure := .signature "Token verification failed"

/-- The first phase: three segments, a header, and an object as payload. -/
def decode? (token : String) : Option Decoded := do
  let compact ← Compact.ofText? token
  let header ← compact.header?
  let payload ← compact.payload?
  return ⟨compact, header, payload⟩

/-- The key that a header names; a header without one names the empty text. -/
def keyIdOf (header : Header) : String :=
  header.kid.getD ""

/-- Whether a value is an array or an object. -/
def isCompound : Json → Bool
  | .array _ => true
  | .object _ => true
  | _ => false

/-- Whether a value is an array or an object with something in it. -/
def isFilledCompound : Json → Bool
  | .array items => !items.isEmpty
  | .object members => !members.isEmpty
  | _ => false

/-- The claims that the signature phase reads. -/
def registeredNames : List String := ["exp", "nbf", "sub", "iss", "aud"]

/-- Whether the signature phase can read the registered claims: each comes once,
the subject is no compound value, and the times are no filled ones. -/
def registeredReadable (payload : List (String × Json)) : Bool :=
  let fine (name : String) (refused : Json → Bool) := match Table.find? name payload with
    | some value => !refused value
    | none => true
  Table.onceEach registeredNames payload && fine "sub" isCompound &&
    fine "exp" isFilledCompound && fine "nbf" isFilledCompound

/-- The third phase: the algorithm is allowed and works with the key, and the
signature verifies. -/
def verifies (validator : Validator) (token : Decoded) (key : PublicKey) : Bool :=
  let algorithm := token.header.algorithm
  validator.allowed.contains algorithm && algorithm.worksWith key.family &&
    (match (VerifyingKey.handOver key).toOption.bind VerifyingKey.public?,
        token.compact.signature? with
      | some handed, some signature =>
          validator.scheme.verify algorithm handed token.compact.signedOctets signature
      | _, _ => false) &&
    registeredReadable token.payload

/-- The claims of a decoded token. -/
def claimsOf (token : Decoded) : Claims :=
  Claims.ofMembers (Table.ofEntries (Json.settleMembers token.payload))

section Acting

variable {m : Type → Type} [Monad m]

/-- The second and the third phase, with a resolver that acts. -/
def verifyM (validator : Validator) (resolver : String → m (Outcome PublicKey))
    (token : Decoded) : m (Outcome Claims) := do
  match ← resolver (keyIdOf token.header) with
  | .error failure => return .error failure
  | .ok key =>
      if validator.verifies token key then return .ok (claimsOf token)
      else return .error unverified

/-- The first three phases, with a resolver that acts. -/
def authenticateM (validator : Validator) (resolver : String → m (Outcome PublicKey))
    (token : String) : m (Outcome Claims) :=
  match decode? token with
  | none => pure (.error undecodable)
  | some decoded => validator.verifyM resolver decoded

/-- The last phase, with rules that act: they are called only where there are claims. -/
def checkRulesM (rules : List (Circumstances → Claims → m Verdict))
    (circumstances : Circumstances) : Outcome Claims → m (Outcome Claims)
  | .error failure => pure (.error failure)
  | .ok claims => do
      let verdicts ← verdictsOfM rules circumstances claims
      return settleVerdicts verdicts claims

/-- All four phases, with a resolver and rules that act. -/
def validateM (validator : Validator) (resolver : String → m (Outcome PublicKey))
    (rules : List (Circumstances → Claims → m Verdict)) (circumstances : Circumstances)
    (token : String) : m (Outcome Claims) :=
  match decode? token with
  | none => pure (.error undecodable)
  | some decoded => do checkRulesM rules circumstances (← validator.verifyM resolver decoded)

end Acting

/-- The first three phases. -/
def authenticate (validator : Validator) (resolver : Key.PublicResolver) (token : String) :
    Outcome Claims :=
  (validator.authenticateM (m := Id) (fun keyId => pure (resolver keyId)) token).run

/-- All four phases. -/
def validate (validator : Validator) (resolver : Key.PublicResolver) (rules : List Rule)
    (circumstances : Circumstances) (token : String) : Outcome Claims :=
  (validator.validateM (m := Id) (fun keyId => pure (resolver keyId))
    (rules.map fun rule circumstances claims => pure (rule circumstances claims))
    circumstances token).run

/-- How the allowed algorithms are shown. -/
def shownAllowed (validator : Validator) : String :=
  Text.shownList (validator.allowed.map Algorithm.name)

/-- How a validator is shown. -/
def shown (validator : Validator) : String :=
  Text.shownRecord "TokenValidationService" [("allowed_algorithms", validator.shownAllowed)]

end Validator

end Attest.Token
