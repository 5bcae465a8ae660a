import Attest.Proofs.Time
import Attest.Token.Rule.Standard

/-!
# What the rules accept

The expiration rule compares two seconds: the one that the token gives as its end, and the one
in which the present instant less the leeway lies.  The rule on the start does so with the present
instant plus the leeway.  The other rules look for one value: an audience among those that are
named, an issuer that is the subject too, or a claim of each name that is required.
-/

namespace Attest.Token.Rule

variable {leeway : Duration} {circumstances : Circumstances} {claims : Claims}

/-- A token passes the expiration rule when the second of the present instant less the leeway
comes before its expiration, which is not before the time of issue if it has one. -/
theorem expiration_eq_ok_iff :
    expiration leeway circumstances claims = .ok () ↔
      ∃ exp now, claims.number? "exp" = some exp ∧ circumstances.now.sub? leeway = some now ∧
        now.seconds < exp ∧ ∀ iat ∈ claims.number? "iat", iat ≤ exp := by
  rw [expiration]
  cases claims.number? "exp" with
  | none => simp [object]
  | some exp =>
      cases circumstances.now.sub? leeway with
      | none => simp [object]
      | some now =>
          by_cases expired : exp ≤ now.seconds
          · simp [object, expired, Int.not_lt.mpr expired]
          · cases claims.number? "iat" with
            | none => simp [expired, Int.not_le.mp expired]
            | some iat =>
                by_cases early : exp < iat
                · simp [object, expired, early, Int.not_le.mpr early]
                · simp [expired, early, Int.not_le.mp expired, Int.not_lt.mp early]

/-- With an end that is not before the issue, nothing but the second decides. -/
theorem expiration_eq {exp : Int} {now : Instant} (ends : claims.number? "exp" = some exp)
    (ordered : ∀ iat ∈ claims.number? "iat", iat ≤ exp)
    (shifted : circumstances.now.sub? leeway = some now) :
    expiration leeway circumstances claims =
      if now.seconds < exp then .ok () else object "Token has expired (exp)" := by
  by_cases before : now.seconds < exp
  · rw [if_pos before]
    exact expiration_eq_ok_iff.mpr ⟨exp, now, ends, shifted, before, ordered⟩
  · simp only [expiration, ends, shifted, if_pos (Int.not_lt.mp before), if_neg before]

/-- A leeway that leads out of the calendar is the objection to every token with an end. -/
theorem expiration_of_unshifted {exp : Int} (ends : claims.number? "exp" = some exp)
    (unshifted : circumstances.now.sub? leeway = none) :
    expiration leeway circumstances claims = object leewayOutOfRange := by
  simp only [expiration, ends, unshifted]

/-- When the present instant less the leeway is in the calendar, the leeway is not to blame. -/
theorem leewayOutOfRange_notMem_expiration {now : Instant}
    (shifted : circumstances.now.sub? leeway = some now) (claims : Claims) :
    leewayOutOfRange ∉ (expiration leeway circumstances claims).messages := by
  simp only [expiration, shifted]
  repeat' split
  all_goals simp [object, Objection.single, Verdict.messages, leewayOutOfRange]

/-- The expiration rule passes a token or objects to it with one message. -/
theorem expiration_eq_ok_or_object (leeway : Duration) (circumstances : Circumstances)
    (claims : Claims) :
    expiration leeway circumstances claims = .ok () ∨
      ∃ message, expiration leeway circumstances claims = object message := by
  rw [expiration]
  split
  · exact .inr ⟨_, rfl⟩
  · split
    · exact .inr ⟨_, rfl⟩
    · split
      · exact .inr ⟨_, rfl⟩
      · split
        · split
          · exact .inr ⟨_, rfl⟩
          · exact .inl rfl
        · exact .inl rfl

/-- A token passes the rule on its start when the second of the present instant plus the leeway
is not before it; without a start it passes unless one is required. -/
theorem notBefore_eq_ok_iff {required : Bool} :
    notBefore leeway required circumstances claims = .ok () ↔
      (claims.number? "nbf" = none ∧ required = false) ∨
        ∃ nbf latest, claims.number? "nbf" = some nbf ∧
          circumstances.now.add? leeway = some latest ∧ nbf ≤ latest.seconds := by
  rw [notBefore]
  cases claims.number? "nbf" with
  | none => cases required <;> simp [object]
  | some nbf =>
      cases circumstances.now.add? leeway with
      | none => simp [object]
      | some latest =>
          by_cases early : latest.seconds < nbf
          · simp [object, early, Int.not_le.mpr early]
          · simp [early, Int.not_lt.mp early]

/-- A leeway that leads out of the calendar is the objection to every token with a start. -/
theorem notBefore_of_unshifted {required : Bool} {nbf : Int}
    (starts : claims.number? "nbf" = some nbf)
    (unshifted : circumstances.now.add? leeway = none) :
    notBefore leeway required circumstances claims = object leewayOutOfRange := by
  simp only [notBefore, starts, unshifted]

/-- When the present instant plus the leeway is in the calendar, the leeway is not to blame. -/
theorem leewayOutOfRange_notMem_notBefore {latest : Instant}
    (shifted : circumstances.now.add? leeway = some latest) (required : Bool) (claims : Claims) :
    leewayOutOfRange ∉ (notBefore leeway required circumstances claims).messages := by
  simp only [notBefore, shifted]
  repeat' split
  all_goals simp [object, Objection.single, Verdict.messages, leewayOutOfRange]

/-- The rule on the start of a token passes it or objects to it with one message. -/
theorem notBefore_eq_ok_or_object (leeway : Duration) (required : Bool)
    (circumstances : Circumstances) (claims : Claims) :
    notBefore leeway required circumstances claims = .ok () ∨
      ∃ message, notBefore leeway required circumstances claims = object message := by
  rw [notBefore]
  split
  · split
    · exact .inr ⟨_, rfl⟩
    · exact .inl rfl
  · split
    · exact .inr ⟨_, rfl⟩
    · split
      · exact .inr ⟨_, rfl⟩
      · exact .inl rfl

/-- A token without a start is valid from ever when no start is required. -/
theorem notBefore_of_missing (missing : claims.number? "nbf" = none) :
    notBefore leeway false circumstances claims = .ok () :=
  notBefore_eq_ok_iff.mpr (.inl ⟨missing, rfl⟩)

theorem audience_eq_ok_iff {expected : String} :
    audience expected circumstances claims = .ok () ↔ expected ∈ audiences (claims.find? "aud") := by
  by_cases named : expected ∈ audiences (claims.find? "aud")
  · simp [audience, named]
  · simp [audience, object, named]

theorem issuerEqualsSubject_eq_ok_iff :
    issuerEqualsSubject circumstances claims = .ok () ↔
      ∃ name, name ≠ "" ∧ claims.string? "iss" = some name ∧ claims.string? "sub" = some name := by
  rw [issuerEqualsSubject]
  cases claims.string? "iss" with
  | none => simp [object]
  | some issuer =>
      cases claims.string? "sub" with
      | none => simp [object]
      | some subject =>
          by_cases selfIssued : issuer ≠ "" ∧ issuer = subject
          · rcases selfIssued with ⟨named, rfl⟩
            simp [named]
          · simp only [if_neg selfIssued, object, reduceCtorEq, Option.some.injEq, false_iff]
            rintro ⟨name, named, rfl, rfl⟩
            exact selfIssued ⟨named, rfl⟩

/-- The required claims that are missing are reported in the order in which they are required. -/
theorem requiredClaims_messages (names : List String) (circumstances : Circumstances)
    (claims : Claims) :
    (requiredClaims names circumstances claims).messages =
      (names.filter fun name => !claims.has name).map fun name =>
        "Required claim '" ++ name ++ "' is missing" := by
  rw [requiredClaims]
  cases names.filter fun name => !claims.has name <;> rfl

theorem requiredClaims_eq_ok_iff {names : List String} :
    requiredClaims names circumstances claims = .ok () ↔
      ∀ name ∈ names, claims.has name = true := by
  have none_missing : (names.filter fun name => !claims.has name) = [] ↔
      ∀ name ∈ names, claims.has name = true := by
    simp [List.filter_eq_nil_iff]
  rw [← none_missing, requiredClaims]
  cases names.filter fun name => !claims.has name <;> simp

end Attest.Token.Rule
