import Attest.Proofs.Token.Rule
import Attest.Proofs.Token.Validation
import Mathlib.Data.List.Perm.Subperm
import Mathlib.Data.Option.Basic

/-!
# What standard rules look at

A standard rule looks at the claims that it names and at the present instant, and at nothing else:
claims that are equal under these names get the same verdict, with the same messages, whatever
properties come with the token.  A standard rule that objects says why, so that a list of standard
rules accepts claims exactly when each of them passes.
-/

namespace Attest

/-! ## Equal values -/

theorem Double.truncate_of_magnitude_eq_zero {x : Double} (zero : x.magnitude = 0) :
    x.truncate = 0 := by
  have exponent : x.exponentField = 0 := by rw [exponentField, zero, Nat.zero_div]
  have fraction : x.fractionField = 0 := by rw [fractionField, zero, Nat.zero_mod]
  have significand : x.significand = 0 := by rw [Double.significand, if_pos exponent, fraction]
  have floor : x.floorMagnitude = 0 := by
    rw [floorMagnitude, significand, Nat.zero_mul, Nat.zero_div, ite_self]
  rw [truncate, floor, signed]
  split <;> rfl

/-- Doubles that are equal as numbers have the same whole part, the two zeros too. -/
theorem Double.truncate_eq_of_sameNumber {x y : Double} (same : x.sameNumber y = true) :
    x.truncate = y.truncate := by
  simp only [sameNumber, Bool.and_eq_true, Bool.or_eq_true, beq_iff_eq, decide_eq_true_eq] at same
  rcases same.2 with bits | ⟨left, right⟩
  · cases x
    cases y
    cases bits
    rfl
  · rw [truncate_of_magnitude_eq_zero left, truncate_of_magnitude_eq_zero right]

namespace Json

variable {a b : Json} {items others : List Json}

/-- The values are identical or equal as JSON, which compares the members of objects in any order
and doubles as numbers. -/
def Alike (a b : Json) : Prop :=
  a = b ∨ a.same b = true

/-- What does not tell equal values apart sees no difference where both are there or neither is. -/
theorem eq_of_rel {α : Type} {value other : Option Json} (rel : Option.Rel Alike value other)
    (read : Option Json → α)
    (congr : ∀ a b : Json, a.same b = true → read (some a) = read (some b)) :
    read value = read other := by
  cases rel with
  | none => rfl
  | some alike =>
      rcases alike with rfl | same
      · rfl
      · exact congr _ _ same

theorem string?_eq_of_same (same : a.same b = true) : a.string? = b.string? := by
  cases a <;> cases b <;> simp_all [Json.same, string?]

theorem strings_eq_of_sameItems (same : sameItems items others = true) :
    items.filterMap string? = others.filterMap string? := by
  induction items generalizing others with
  | nil =>
      cases others with
      | nil => rfl
      | cons => cases same
  | cons item rest ih =>
      cases others with
      | nil => cases same
      | cons other others =>
          rw [sameItems, Bool.and_eq_true] at same
          rw [List.filterMap_cons, List.filterMap_cons, string?_eq_of_same same.1, ih same.2]

end Json

namespace Token

/-! ## Claims that agree -/

namespace Claims

variable {claims others : Claims} {names : List String} {name : String}

theorem numeric?_eq_of_same {a b : Json} (same : a.same b = true) : numeric? a = numeric? b := by
  cases a <;> cases b <;> try cases same
  case int i j =>
    rw [Json.same, beq_iff_eq] at same
    rw [same]
  case float x y =>
    rw [Json.same] at same
    rw [numeric?, numeric?, Double.truncate_eq_of_sameNumber same]
  all_goals rfl

/-- Under each of the names neither has a claim, or both have, with equal values. -/
def AgreeOn (names : List String) (claims others : Claims) : Prop :=
  ∀ name ∈ names, Option.Rel Json.Alike (claims.find? name) (others.find? name)

namespace AgreeOn

theorem string?_eq (agree : AgreeOn names claims others) (named : name ∈ names) :
    claims.string? name = others.string? name :=
  Json.eq_of_rel (agree name named) (fun value => value.bind Json.string?)
    fun _ _ => Json.string?_eq_of_same

theorem number?_eq (agree : AgreeOn names claims others) (named : name ∈ names) :
    claims.number? name = others.number? name :=
  Json.eq_of_rel (agree name named) (fun value => value.bind numeric?)
    fun _ _ => numeric?_eq_of_same

theorem has_eq (agree : AgreeOn names claims others) (named : name ∈ names) :
    claims.has name = others.has name :=
  Json.eq_of_rel (agree name named) Option.isSome fun _ _ _ => rfl

end AgreeOn

end Claims

namespace Rule

variable {claims others : Claims} {circumstances : Circumstances} {expected : String}

/-- The same audiences are named in equal values. -/
theorem audiences_eq_of_same {a b : Json} (same : a.same b = true) :
    audiences (some a) = audiences (some b) := by
  cases a <;> cases b <;> try cases same
  case string x y =>
    rw [Json.same, beq_iff_eq] at same
    rw [same]
  case array items others =>
    rw [Json.same] at same
    exact Json.strings_eq_of_sameItems same
  all_goals rfl

/-! ## The standard rules -/

/-- A standard rule with its parameters. -/
inductive Standard where
  | expiration (leeway : Duration)
  | notBefore (leeway : Duration) (required : Bool)
  | audience (expected : String)
  | issuer (expected : String)
  | issuerEqualsSubject
  | requiredClaims (names : List String)

namespace Standard

/-- The rule itself. -/
def rule : Standard → Rule
  | .expiration leeway => Rule.expiration leeway
  | .notBefore leeway required => Rule.notBefore leeway required
  | .audience expected => Rule.audience expected
  | .issuer expected => Rule.issuer expected
  | .issuerEqualsSubject => Rule.issuerEqualsSubject
  | .requiredClaims names => Rule.requiredClaims names

/-- The names of the claims that the rule looks at. -/
def names : Standard → List String
  | .expiration _ => ["exp", "iat"]
  | .notBefore _ _ => ["nbf"]
  | .audience _ => ["aud"]
  | .issuer _ => ["iss"]
  | .issuerEqualsSubject => ["iss", "sub"]
  | .requiredClaims names => names

/-- Claims that agree under the names of a rule get the same verdict at an instant. -/
theorem rule_eq_of_agreeOn (standard : Standard) (now : Instant)
    (agree : claims.AgreeOn standard.names others) (additional otherAdditional : Table Json) :
    standard.rule ⟨now, additional⟩ claims = standard.rule ⟨now, otherAdditional⟩ others := by
  cases standard with
  | expiration leeway =>
      have ends : claims.number? "exp" = others.number? "exp" :=
        agree.number?_eq (by simp [names])
      have issued : claims.number? "iat" = others.number? "iat" :=
        agree.number?_eq (by simp [names])
      simp only [rule, Rule.expiration, ends, issued]
  | notBefore leeway required =>
      have starts : claims.number? "nbf" = others.number? "nbf" :=
        agree.number?_eq (by simp [names])
      simp only [rule, Rule.notBefore, starts]
  | audience expected =>
      have named := Json.eq_of_rel (agree "aud" (by simp [names])) audiences
        fun _ _ => audiences_eq_of_same
      simp only [rule, Rule.audience, named]
  | issuer expected =>
      have issuer : claims.string? "iss" = others.string? "iss" :=
        agree.string?_eq (by simp [names])
      simp only [rule, Rule.issuer, issuer]
  | issuerEqualsSubject =>
      have issuer : claims.string? "iss" = others.string? "iss" :=
        agree.string?_eq (by simp [names])
      have subject : claims.string? "sub" = others.string? "sub" :=
        agree.string?_eq (by simp [names])
      simp only [rule, Rule.issuerEqualsSubject, issuer, subject]
  | requiredClaims required =>
      have missing : (required.filter fun name => !claims.has name) =
          required.filter fun name => !others.has name :=
        List.filter_congr fun name member => congrArg _ (agree.has_eq member)
      simp only [rule, Rule.requiredClaims, missing]

end Standard

/-! ## Objections -/

/-- A verdict that is no objection without a message. -/
def Outspoken (verdict : Verdict) : Prop :=
  ∀ objection, verdict = .error objection → objection.messages ≠ []

theorem outspoken_ok : Outspoken (.ok ()) := by
  rintro objection ⟨⟩

theorem outspoken_object (message : String) : Outspoken (object message) := by
  rintro objection ⟨⟩
  exact List.cons_ne_nil _ _

theorem outspoken_of_settled {verdict : Verdict}
    (settled : verdict = .ok () ∨ ∃ message, verdict = object message) : Outspoken verdict := by
  rcases settled with rfl | ⟨message, rfl⟩
  · exact outspoken_ok
  · exact outspoken_object message

/-- An outspoken verdict without messages passes. -/
theorem Outspoken.messages_eq_nil_iff {verdict : Verdict} (outspoken : Outspoken verdict) :
    verdict.messages = [] ↔ verdict = .ok () := by
  cases verdict with
  | ok => simp [Verdict.messages]
  | error objection => simp [Verdict.messages, outspoken objection rfl]

/-- The required claims rule objects when a name is missing, with one message for each entry of
its list that is. -/
theorem requiredClaims_eq_error_iff {names : List String} {objection : Objection} :
    requiredClaims names circumstances claims = .error objection ↔
      (∃ name ∈ names, claims.has name = false) ∧
        objection.messages = (names.filter fun name => !claims.has name).map fun name =>
          "Required claim '" ++ name ++ "' is missing" := by
  have some_missing : (∃ name ∈ names, claims.has name = false) ↔
      (names.filter fun name => !claims.has name) ≠ [] := by
    simp [List.filter_eq_nil_iff]
  rw [some_missing, requiredClaims]
  cases missing : names.filter fun name => !claims.has name with
  | nil => simp
  | cons name rest =>
      obtain ⟨messages⟩ := objection
      simp [eq_comm]

theorem Standard.outspoken (standard : Standard) (circumstances : Circumstances)
    (claims : Claims) : Outspoken (standard.rule circumstances claims) := by
  cases standard with
  | expiration leeway =>
      exact outspoken_of_settled (expiration_eq_ok_or_object leeway circumstances claims)
  | notBefore leeway required =>
      exact outspoken_of_settled (notBefore_eq_ok_or_object leeway required circumstances claims)
  | audience expected =>
      rw [rule, Rule.audience]
      split
      · exact outspoken_ok
      · exact outspoken_object _
  | issuer expected =>
      rw [rule, Rule.issuer]
      split
      · exact outspoken_ok
      · exact outspoken_object _
  | issuerEqualsSubject =>
      rw [rule, Rule.issuerEqualsSubject]
      split
      · split
        · exact outspoken_ok
        · exact outspoken_object _
      · exact outspoken_object _
  | requiredClaims names =>
      intro objection objects
      rw [rule] at objects
      obtain ⟨⟨name, member, missing⟩, messages⟩ := requiredClaims_eq_error_iff.mp objects
      rw [messages, Ne, List.map_eq_nil_iff, List.filter_eq_nil_iff]
      intro none_missing
      exact absurd (none_missing name member) (by simp [missing])

/-- Where no standard rule can object in silence, claims are accepted when every rule passes. -/
theorem checkRules_standard_eq_ok_iff {standards : List Standard} {accepted : Claims} :
    checkRules (standards.map Standard.rule) circumstances claims = .ok accepted ↔
      accepted = claims ∧ ∀ standard ∈ standards, standard.rule circumstances claims = .ok () := by
  rw [Validator.checkRules_eq_ok_iff, List.forall_mem_map]
  refine and_congr_right fun _ => forall₂_congr fun standard _ => ?_
  exact (standard.outspoken circumstances claims).messages_eq_nil_iff

/-! ## Audiences -/

theorem mem_audiences_iff {value : Option Json} :
    expected ∈ audiences value ↔ value = some (.string expected) ∨
      ∃ items, value = some (.array items) ∧ .string expected ∈ items := by
  have string?_eq_some_iff : ∀ item : Json,
      item.string? = some expected ↔ item = .string expected := by
    intro item
    cases item <;> simp [Json.string?]
  rcases value with - | value
  · simp [audiences]
  · cases value <;> simp [audiences, List.mem_filterMap, string?_eq_some_iff, eq_comm]

/-- More audiences, in any order and beside values of any type, do no harm. -/
theorem audience_of_subperm {items more : List Json} {later : Circumstances}
    (listed : claims.find? "aud" = some (.array items))
    (relisted : others.find? "aud" = some (.array more)) (sub : items.Subperm more)
    (passes : audience expected circumstances claims = .ok ()) :
    audience expected later others = .ok () := by
  rw [audience_eq_ok_iff, mem_audiences_iff] at passes ⊢
  rw [listed] at passes
  obtain absent | ⟨found, same, member⟩ := passes
  · cases absent
  · cases same
    exact .inr ⟨more, relisted, sub.subset member⟩

/-! ## The laws of standard rules -/

/-- What is common to the standard rules, whatever their parameters are, and what the lists in
claims and parameters mean to them. -/
structure StandardLaws : Prop where
  /-- A rule sees the claims that it names and the present instant, and no property of the token. -/
  scope : ∀ (standard : Standard) now (claims others : Claims) additional otherAdditional,
    claims.AgreeOn standard.names others →
      standard.rule ⟨now, additional⟩ claims = standard.rule ⟨now, otherAdditional⟩ others
  /-- It never objects without a message. -/
  outspoken : ∀ (standard : Standard) circumstances claims objection,
    standard.rule circumstances claims = .error objection → objection.messages ≠ []
  /-- So nothing is accepted that one of them objects to. -/
  accepted_iff : ∀ (standards : List Standard) circumstances claims accepted,
    checkRules (standards.map Standard.rule) circumstances claims = .ok accepted ↔
      accepted = claims ∧ ∀ standard ∈ standards, standard.rule circumstances claims = .ok ()
  /-- Each missing entry of a list of required names has its message, in the order of the list. -/
  missing_iff : ∀ names circumstances claims objection,
    requiredClaims names circumstances claims = .error objection ↔
      (∃ name ∈ names, claims.has name = false) ∧
        objection.messages = (names.filter fun name => !claims.has name).map fun name =>
          "Required claim '" ++ name ++ "' is missing"
  /-- The expected audience is named by itself or in a list. -/
  audience_iff : ∀ expected circumstances claims,
    audience expected circumstances claims = .ok () ↔
      claims.find? "aud" = some (.string expected) ∨
        ∃ items, claims.find? "aud" = some (.array items) ∧ .string expected ∈ items
  /-- A list may be rearranged, and anything may be added to it. -/
  audience_grows : ∀ expected circumstances later (claims others : Claims) items more,
    claims.find? "aud" = some (.array items) → others.find? "aud" = some (.array more) →
      items.Subperm more → audience expected circumstances claims = .ok () →
        audience expected later others = .ok ()

theorem standard_laws : StandardLaws := by
  constructor
  case scope =>
    intro standard now claims others additional otherAdditional agree
    exact standard.rule_eq_of_agreeOn now agree additional otherAdditional
  case outspoken =>
    intro standard circumstances claims
    exact standard.outspoken circumstances claims
  case accepted_iff =>
    intro standards circumstances claims accepted
    exact checkRules_standard_eq_ok_iff
  case missing_iff =>
    intro names circumstances claims objection
    exact requiredClaims_eq_error_iff
  case audience_iff =>
    intro expected circumstances claims
    rw [audience_eq_ok_iff, mem_audiences_iff]
  case audience_grows =>
    intro expected circumstances later claims others items more listed relisted sub passes
    exact audience_of_subperm listed relisted sub passes

/-- Two tokens end with the two zeros, and one of them is for further audiences. -/
theorem standard_laws_sample :
    let claims := Claims.ofMembers [("exp", .float ⟨0⟩), ("aud", .array [.string "a", .string "b"])]
    let others := Claims.ofMembers [("exp", .float ⟨0x8000000000000000⟩),
      ("aud", .array [.null, .string "b", .int 1, .string "a"]), ("sub", .string "alice")]
    expiration .zero ⟨.epoch, []⟩ claims = expiration .zero ⟨.epoch, [("x", .null)]⟩ others ∧
      audience "b" ⟨.epoch, []⟩ others = .ok () ∧
      ∀ objection, requiredClaims ["iss", "aud", "iss"] ⟨.epoch, []⟩ claims = .error objection →
        objection.messages =
          ["Required claim 'iss' is missing", "Required claim 'iss' is missing"] := by
  intro claims others
  have agree : claims.AgreeOn ["exp", "iat"] others := by
    intro name member
    rcases List.mem_pair.mp member with rfl | rfl
    · exact .some (.inr (by decide))
    · exact .none
  have listed : audience "b" ⟨.epoch, []⟩ claims = .ok () := by decide
  have sub : [Json.string "a", .string "b"].Subperm
      [.null, .string "b", .int 1, .string "a"] :=
    ⟨[.string "b", .string "a"], .swap _ _ _,
      .cons _ (.cons_cons _ (.cons _ (.cons_cons _ .slnil)))⟩
  refine ⟨standard_laws.scope (.expiration .zero) .epoch claims others [] [("x", .null)] agree,
    standard_laws.audience_grows "b" ⟨.epoch, []⟩ ⟨.epoch, []⟩ claims others _ _ rfl rfl sub listed,
    ?_⟩
  intro objection objects
  exact ((standard_laws.missing_iff _ _ _ _).mp objects).2

end Rule

end Token

end Attest
