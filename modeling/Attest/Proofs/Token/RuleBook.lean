import Attest.Proofs.Token.Phases
import Attest.Token.RuleBook

/-!
# Rules that were added

A rule book is added to and asked for the rules of a context, in any order.  What is taken from it
under a context are the rules that had been added under this context, in the order of addition; what
happens under other contexts or later makes no difference.  Validation calls every rule that was
taken once for each addition, and what it reports is what the failing ones have said.
-/

namespace Attest.Token

/-! ## Runs of a rule book -/

namespace RuleBook

/-- What is done with a rule book: a rule is added, for this context alone or shared with others,
or the rules of a context are taken. -/
inductive Request where
  | add (context : String) (rule : Rule)
  | addShared (context : String) (rule : Rule)
  | take (context : String)

/-- A rule book and the lists of rules that have been taken from it, in order. -/
structure Session where
  book : RuleBook := .empty
  taken : List (List Rule) := []

namespace Session

/-- The session after a request. -/
def after (session : Session) : Request → Session
  | .add context rule => { session with book := session.book.add context rule }
  | .addShared context rule => { session with book := session.book.add context rule }
  | .take context => { session with taken := session.taken ++ [session.book.rules context] }

/-- The session after requests, one after the other. -/
def run (session : Session) (requests : List Request) : Session :=
  requests.foldl after session

end Session

/-- The rule that a request adds under a context. -/
def Request.adds? (context : String) : Request → Option Rule
  | .add other rule => if other = context then some rule else none
  | .addShared other rule => if other = context then some rule else none
  | .take _ => none

/-- Whether a request takes rules. -/
def Request.takes : Request → Bool
  | .take _ => true
  | _ => false

/-- The rules that requests add under a context. -/
def addedUnder (context : String) (requests : List Request) : List Rule :=
  requests.filterMap (Request.adds? context)

variable {session : Session} {request : Request} {context : String}

/-- A request adds its rule at the end of its context. -/
theorem rules_after (session : Session) (request : Request) (context : String) :
    (session.after request).book.rules context =
      session.book.rules context ++ (request.adds? context).toList := by
  have added : ∀ other rule, (session.book.add other rule).rules context =
      session.book.rules context ++ (if other = context then some rule else none).toList := by
    intro other rule
    by_cases same : other = context
    · subst same
      simp
    · simp [rules_add_of_ne same, same]
  cases request with
  | add other rule => exact added other rule
  | addShared other rule => exact added other rule
  | take other => exact (List.append_nil _).symm

theorem rules_run (requests : List Request) (session : Session) (context : String) :
    (session.run requests).book.rules context =
      session.book.rules context ++ addedUnder context requests := by
  induction requests generalizing session with
  | nil => exact (List.append_nil _).symm
  | cons request rest ih =>
      have first : (session.run (request :: rest)).book.rules context =
          (session.after request).book.rules context ++ addedUnder context rest := ih _
      rw [first, rules_after, List.append_assoc, addedUnder, addedUnder]
      cases added : request.adds? context <;> simp [added]

/-- What was taken stays as it is. -/
theorem taken_prefix_run (requests : List Request) (session : Session) :
    session.taken <+: (session.run requests).taken := by
  induction requests generalizing session with
  | nil => exact List.prefix_rfl
  | cons request rest ih =>
      have kept : session.taken <+: (session.after request).taken := by
        cases request with
        | add other rule => exact List.prefix_rfl
        | addShared other rule => exact List.prefix_rfl
        | take other => exact List.prefix_append _ _
      exact kept.trans (ih _)

theorem length_taken_run (requests : List Request) (session : Session) :
    (session.run requests).taken.length =
      session.taken.length + requests.countP Request.takes := by
  induction requests generalizing session with
  | nil => rfl
  | cons request rest ih =>
      have first : (session.run (request :: rest)).taken.length =
          (session.after request).taken.length + rest.countP Request.takes := ih _
      rw [first, List.countP_cons]
      cases request with
      | add other rule => rfl
      | addShared other rule => rfl
      | take other =>
          simp only [Session.after, Request.takes, List.length_append, List.length_singleton,
            if_true]
          omega

/-- A request takes the rules that were added under its context before, whatever comes later. -/
theorem taken_run (before later : List Request) (context : String) :
    (({} : Session).run (before ++ .take context :: later)).taken[before.countP Request.takes]? =
      some (addedUnder context before) := by
  let reached := ({} : Session).run before
  have split : ({} : Session).run (before ++ .take context :: later) =
      (reached.after (.take context)).run later := List.foldl_append
  have position : reached.taken.length = before.countP Request.takes :=
    (length_taken_run before {}).trans (Nat.zero_add _)
  have rules : reached.book.rules context = addedUnder context before := rules_run before {} context
  have here : (reached.after (.take context)).taken[before.countP Request.takes]? =
      some (addedUnder context before) := by
    rw [← position, ← rules]
    exact List.getElem?_concat_length
  obtain ⟨rest, grown⟩ := taken_prefix_run later (reached.after (.take context))
  obtain ⟨bound, -⟩ := List.getElem?_eq_some_iff.mp here
  rw [split, ← grown, List.getElem?_append_left bound, here]

end RuleBook

/-! ## What the rules are asked and what they say -/

/-- A rule that was called, and what it was called with. -/
structure Call where
  rule : Rule
  circumstances : Circumstances
  claims : Claims

/-- The rule that notes down each of its calls. -/
def noted (rule : Rule) (circumstances : Circumstances) (claims : Claims) :
    StateM (List Call) Verdict := do
  modify (· ++ [⟨rule, circumstances, claims⟩])
  return rule circumstances claims

/-- What the failing ones among rules say, in their order. -/
def objections (rules : List Rule) (circumstances : Circumstances) (claims : Claims) :
    List Objection :=
  rules.filterMap fun rule =>
    match rule circumstances claims with
    | .ok () => none
    | .error objection => some objection

variable {rules : List Rule} {circumstances : Circumstances} {claims : Claims}

theorem objections_append (first second : List Rule) (circumstances : Circumstances)
    (claims : Claims) :
    objections (first ++ second) circumstances claims =
      objections first circumstances claims ++ objections second circumstances claims :=
  List.filterMap_append

/-- The collected messages are those of the failing rules. -/
theorem collectMessages_verdictsOf (rules : List Rule) (circumstances : Circumstances)
    (claims : Claims) :
    collectMessages (verdictsOf rules circumstances claims) =
      (objections rules circumstances claims).flatMap Objection.messages := by
  induction rules with
  | nil => rfl
  | cons rule rest ih =>
      rw [verdictsOf_eq_map] at ih ⊢
      rw [List.map_cons, collectMessages_cons, objections, List.filterMap_cons]
      cases rule circumstances claims with
      | ok => exact ih
      | error objection => exact congrArg (objection.messages ++ ·) ih

/-- Every rule is called once, in its turn, whatever the others have said. -/
theorem verdictsOfM_noted (rules : List Rule) (circumstances : Circumstances) (claims : Claims)
    (calls : List Call) :
    (verdictsOfM (rules.map noted) circumstances claims).run calls =
      (verdictsOf rules circumstances claims,
        calls ++ rules.map fun rule => ⟨rule, circumstances, claims⟩) := by
  rw [verdictsOf_eq_map, verdictsOfM]
  induction rules generalizing calls with
  | nil =>
      simp only [List.map_nil, List.mapM_nil, List.append_nil]
      rfl
  | cons rule rest ih =>
      have first : (noted rule circumstances claims).run calls =
          pure (rule circumstances claims, calls ++ [⟨rule, circumstances, claims⟩]) := rfl
      rw [List.map_cons, List.map_cons, List.map_cons, List.append_cons]
      simp only [List.mapM_cons, StateT.run_bind, first, pure_bind, ih]
      rfl

namespace Validator

variable {validator : Validator} {resolver : Key.PublicResolver} {token : String}

/-- The messages of a result. -/
def reported : Outcome Claims → List String
  | .ok _ => []
  | .error failure => failure.messages

/-- What validation does with rules once a token is authentic and has the given claims. -/
structure Reports (validator : Validator) (resolver : Key.PublicResolver) (token : String)
    (claims : Claims) (rules : List Rule) (circumstances : Circumstances) : Prop where
  /-- Each rule is called once, in its turn, with the claims of the token. -/
  calls : ∀ before, (validator.validateM (fun keyId => pure (resolver keyId)) (rules.map noted)
    circumstances token).run before = (validator.validate resolver rules circumstances token,
      before ++ rules.map fun rule => ⟨rule, circumstances, claims⟩)
  /-- A violation lists the messages of the failing rules, one after the other. -/
  violation_iff : ∀ failure,
    validator.validate resolver rules circumstances token = .error failure ↔
      ∃ messages, failure = .ruleViolation messages ∧ messages ≠ [] ∧
        messages = (objections rules circumstances claims).flatMap Objection.messages
  /-- Where the rules are split in two, so are the messages. -/
  split : ∀ first second, rules = first ++ second →
    reported (validator.validate resolver rules circumstances token) =
      reported (validator.validate resolver first circumstances token) ++
        reported (validator.validate resolver second circumstances token)

theorem validate_of_authentic (authentic : validator.authenticate resolver token = .ok claims)
    (rules : List Rule) (circumstances : Circumstances) :
    validator.validate resolver rules circumstances token =
      checkRules rules circumstances claims := by
  rw [validate_eq_bind, authentic]
  rfl

/-- What rules report about claims are the messages of the failing ones. -/
theorem reported_checkRules (rules : List Rule) (circumstances : Circumstances)
    (claims : Claims) :
    reported (checkRules rules circumstances claims) =
      (objections rules circumstances claims).flatMap Objection.messages := by
  rw [checkRules, settleVerdicts, collectMessages_verdictsOf]
  split
  · next silent => exact silent.symm
  · rfl

theorem checkRules_eq_error_iff {failure : Failure} :
    checkRules rules circumstances claims = .error failure ↔
      ∃ messages, failure = .ruleViolation messages ∧ messages ≠ [] ∧
        messages = (objections rules circumstances claims).flatMap Objection.messages := by
  rw [checkRules, settleVerdicts, collectMessages_verdictsOf]
  split
  · next silent => simp [silent]
  · next spoken =>
      constructor
      · rintro ⟨⟩
        exact ⟨_, rfl, spoken, rfl⟩
      · rintro ⟨_, rfl, -, rfl⟩
        rfl

theorem reports_of_authentic (authentic : validator.authenticate resolver token = .ok claims)
    (rules : List Rule) (circumstances : Circumstances) :
    Reports validator resolver token claims rules circumstances := by
  constructor
  case calls =>
    intro before
    rw [validateM_eq_bind, authenticateM_pure, pure_bind, authentic,
      validate_of_authentic authentic, checkRulesM, StateT.run_bind, verdictsOfM_noted]
    rfl
  case violation_iff =>
    intro failure
    rw [validate_of_authentic authentic, checkRules_eq_error_iff]
  case split =>
    rintro first second rfl
    rw [validate_of_authentic authentic, validate_of_authentic authentic,
      validate_of_authentic authentic, reported_checkRules, reported_checkRules,
      reported_checkRules, objections_append, List.flatMap_append]

/-- Whatever is added to a rule book and taken from it, validating an authentic token with rules
that were taken under a context calls the ones that were added there before, and reports all that
the failing ones have said. -/
theorem taken_rules_reported (authentic : validator.authenticate resolver token = .ok claims)
    (before later : List RuleBook.Request) (context : String) :
    ∃ rules, (({} : RuleBook.Session).run
        (before ++ .take context :: later)).taken[before.countP RuleBook.Request.takes]? =
          some rules ∧
      rules = RuleBook.addedUnder context before ∧
      ∀ circumstances, Reports validator resolver token claims rules circumstances :=
  ⟨RuleBook.addedUnder context before, RuleBook.taken_run before later context, rfl,
    reports_of_authentic authentic _⟩

/-- Three rules are added for reading, one of them passes, and one that is added for writing and one
that comes too late are not heard. -/
theorem taken_rules_reported_sample :
    let objecting (messages : List String) : Rule := fun _ _ => .error ⟨messages⟩
    let before : List RuleBook.Request :=
      [.add "read" (objecting ["a", "b"]), .add "write" (objecting ["w"]),
        .addShared "read" fun _ _ => .ok (), .take "write", .addShared "read" (objecting ["a"])]
    let later : List RuleBook.Request := [.add "read" (objecting ["late"]), .take "read"]
    ∃ rules,
      (({} : RuleBook.Session).run (before ++ .take "read" :: later)).taken[1]? = some rules ∧
      Sample.validator.validate Sample.resolver rules ⟨Instant.epoch, []⟩
        (Sample.token Sample.payload Sample.signature).text =
          .error (.ruleViolation ["a", "b", "a"]) := by
  intro objecting before later
  have verified := Sample.scheme_verifies
    (Compact.unsigned Sample.header Sample.payload).signedOctets Sample.signature
  obtain ⟨rules, taken, rfl, reports⟩ :=
    taken_rules_reported (authenticate_sample verified) before later "read"
  exact ⟨_, taken, ((reports _).violation_iff _).mpr ⟨_, rfl, List.cons_ne_nil _ _, rfl⟩⟩

end Validator

end Attest.Token
