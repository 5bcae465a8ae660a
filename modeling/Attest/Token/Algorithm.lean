import Attest.Key

/-!
# Signature algorithms

The names of signature algorithms that a token header may carry, and the family
of keys that each works with.  No algorithm on shared secrets works with any
family of keys here.
-/

namespace Attest.Token

/-- A signature algorithm. -/
inductive Algorithm where
  | hs256
  | hs384
  | hs512
  | es256
  | es384
  | rs256
  | rs384
  | rs512
  | ps256
  | ps384
  | ps512
  | edDsa
  deriving DecidableEq, Repr

namespace Algorithm

/-- The name of an algorithm. -/
def name : Algorithm → String
  | .hs256 => "HS256"
  | .hs384 => "HS384"
  | .hs512 => "HS512"
  | .es256 => "ES256"
  | .es384 => "ES384"
  | .rs256 => "RS256"
  | .rs384 => "RS384"
  | .rs512 => "RS512"
  | .ps256 => "PS256"
  | .ps384 => "PS384"
  | .ps512 => "PS512"
  | .edDsa => "EdDSA"

/-- Every algorithm. -/
def all : List Algorithm :=
  [.hs256, .hs384, .hs512, .es256, .es384, .rs256, .rs384, .rs512, .ps256, .ps384, .ps512, .edDsa]

/-- The algorithm of the given name. -/
def ofName? (name : String) : Option Algorithm :=
  all.find? fun algorithm => algorithm.name == name

@[simp]
theorem ofName?_name (algorithm : Algorithm) : ofName? algorithm.name = some algorithm := by
  cases algorithm <;> rfl

/-- Whether an algorithm works with keys of a family. -/
def worksWith (algorithm : Algorithm) : KeyFamily → Bool
  | .p256 => algorithm = .es256
  | .rsa =>
      match algorithm with
      | .rs256 | .rs384 | .rs512 | .ps256 | .ps384 | .ps512 => true
      | _ => false
  | .symmetric => false

/-- The algorithm that keys of a family sign with by default. -/
def preferred : KeyFamily → Algorithm
  | .rsa => .rs256
  | _ => .es256

/-- The algorithms that validation allows by default. -/
def allowedByDefault : List Algorithm :=
  [.es256, .rs256, .rs384, .rs512, .ps256, .ps384, .ps512]

end Algorithm

end Attest.Token
