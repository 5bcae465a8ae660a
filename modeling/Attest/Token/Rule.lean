import Attest.Failure
import Attest.Time
import Attest.Token.Claims

/-!
# Validation rules

A rule looks at the verified claims, at the properties that came with the token
and at the present instant, and passes or fails with messages.  Validation
applies every rule of a list and collects the messages of all of them, in order;
the claims are accepted when no message was collected.
-/

namespace Attest.Token

/-- What a rule may consult beside the claims. -/
structure Circumstances where
  /-- The present instant. -/
  now : Instant
  /-- The properties that came with the token. -/
  additional : Table Json := []

/-- The messages of a rule that failed. -/
structure Objection where
  messages : List String
  deriving DecidableEq, Repr

/-- The objection with one message. -/
def Objection.single (message : String) : Objection := ⟨[message]⟩

/-- The text of an objection. -/
def Objection.text (objection : Objection) : String :=
  Failure.joined objection.messages

/-- What a rule says: it passes, or it objects. -/
abbrev Verdict := Except Objection Unit

/-- A condition on claims. -/
abbrev Rule := Circumstances → Claims → Verdict

/-- The messages of a verdict. -/
def Verdict.messages : Verdict → List String
  | .ok () => []
  | .error objection => objection.messages

/-- The messages collected from verdicts, in their order. -/
def collectMessages (verdicts : List Verdict) : List String :=
  verdicts.flatMap Verdict.messages

@[simp]
theorem collectMessages_nil : collectMessages [] = [] :=
  rfl

@[simp]
theorem collectMessages_cons (verdict : Verdict) (verdicts : List Verdict) :
    collectMessages (verdict :: verdicts) = verdict.messages ++ collectMessages verdicts :=
  rfl

/-- Accept the claims, unless messages were collected. -/
def settleVerdicts (verdicts : List Verdict) (claims : Claims) : Outcome Claims :=
  match collectMessages verdicts with
  | [] => .ok claims
  | messages => .error (.ruleViolation messages)

/-- What each rule says, for rules that act when they are called. -/
def verdictsOfM {m : Type → Type} [Monad m] (rules : List (Circumstances → Claims → m Verdict))
    (circumstances : Circumstances) (claims : Claims) : m (List Verdict) :=
  rules.mapM fun rule => rule circumstances claims

/-- What each rule says. -/
def verdictsOf (rules : List Rule) (circumstances : Circumstances) (claims : Claims) :
    List Verdict :=
  (verdictsOfM (m := Id) (rules.map fun rule circumstances claims =>
    pure (rule circumstances claims)) circumstances claims).run

theorem verdictsOfM_pure {m : Type → Type} [Monad m] [LawfulMonad m] (rules : List Rule)
    (circumstances : Circumstances) (claims : Claims) :
    verdictsOfM (m := m) (rules.map fun rule circumstances claims =>
      pure (rule circumstances claims)) circumstances claims =
        pure (rules.map fun rule => rule circumstances claims) := by
  rw [verdictsOfM, List.mapM_map]
  exact List.mapM_pure

theorem verdictsOf_eq_map (rules : List Rule) (circumstances : Circumstances) (claims : Claims) :
    verdictsOf rules circumstances claims = rules.map fun rule => rule circumstances claims := by
  rw [verdictsOf, verdictsOfM_pure]
  rfl

/-- Apply every rule. -/
def checkRules (rules : List Rule) (circumstances : Circumstances) (claims : Claims) :
    Outcome Claims :=
  settleVerdicts (verdictsOf rules circumstances claims) claims

end Attest.Token
