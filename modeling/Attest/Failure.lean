/-!
# Failures of trust operations

Resolving keys, validating tokens and issuing tokens fail with one of six kinds
of failure.  A rule violation carries the messages of every violated rule, in
order; every other kind carries one message.  Adding context rewords the
message and keeps the kind.
-/

namespace Attest

/-- Why an operation failed. -/
inductive Failure where
  /-- A key or secret was not found. -/
  | resolution (message : String)
  /-- A text could not be decoded. -/
  | parse (message : String)
  /-- A key was found but is of the wrong kind. -/
  | typeMismatch (message : String)
  /-- A signature did not verify. -/
  | signature (message : String)
  /-- Validation rules were violated. -/
  | ruleViolation (messages : List String)
  /-- A token could not be issued. -/
  | issuance (message : String)
  deriving DecidableEq, Repr

namespace Failure

/-- The name of the kind of a failure. -/
def category : Failure → String
  | .resolution _ => "resolution_failure"
  | .parse _ => "parse_failure"
  | .typeMismatch _ => "type_mismatch"
  | .signature _ => "signature_failure"
  | .ruleViolation _ => "rule_violation"
  | .issuance _ => "issuance_failure"

/-- Several messages as one text. -/
def joined (messages : List String) : String :=
  String.intercalate "; " messages

/-- The text of a failure. -/
def text : Failure → String
  | .resolution message | .parse message | .typeMismatch message | .signature message
  | .issuance message => message
  | .ruleViolation messages => joined messages

/-- The messages of a failure: those of the violated rules, or the only one. -/
def messages : Failure → List String
  | .ruleViolation messages => messages
  | other => [other.text]

/-- The same kind of failure in other words. -/
def withContext (reword : String → String) : Failure → Failure
  | .resolution message => .resolution (reword message)
  | .parse message => .parse (reword message)
  | .typeMismatch message => .typeMismatch (reword message)
  | .signature message => .signature (reword message)
  | .issuance message => .issuance (reword message)
  | .ruleViolation messages => .ruleViolation [reword (joined messages)]

@[simp]
theorem category_withContext (reword : String → String) (failure : Failure) :
    (failure.withContext reword).category = failure.category := by
  cases failure <;> rfl

end Failure

/-- The result of an operation that may fail. -/
abbrev Outcome (α : Type) := Except Failure α

end Attest
