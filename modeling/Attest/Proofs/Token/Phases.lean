import Attest.Proofs.Token.Validation

/-!
# The order of the phases

What a token comes to in the first three phases is the same whatever the rules and the
circumstances are, and the rules are applied to its outcome.  When the resolver and the rules are
called is told by letting them act: each call is an action in a monad, and validation performs the
actions in its order.  Then nobody is called for a malformed token, and no rule is called unless
the first three phases have yielded claims.
-/

namespace Attest.Token.Validator

variable {validator : Validator} {resolver : Key.PublicResolver} {token : String}

/-! ## Malformed tokens -/

/-- The text does not have three segments, or its header or its payload cannot be read. -/
inductive Malformed (token : String) : Prop
  | segments (otherwise : ∀ compact : Compact, compact.Dotless → compact.text ≠ token)
  | header (compact : Compact) (dotless : compact.Dotless) (text : compact.text = token)
      (unreadable : compact.header? = none)
  | payload (compact : Compact) (dotless : compact.Dotless) (text : compact.text = token)
      (unreadable : compact.payload? = none)

theorem malformed_iff : Malformed token ↔ decode? token = none := by
  rw [Option.eq_none_iff_forall_ne_some]
  constructor
  · intro malformed decoded decodes
    obtain ⟨segments, headerRead, payloadRead⟩ := decode?_eq_some_iff.mp decodes
    obtain ⟨dotless, text⟩ := Compact.ofText?_eq_some_iff.mp segments
    have unique : ∀ compact : Compact, compact.Dotless → compact.text = token →
        compact = decoded.compact := fun compact itsDotless itsText =>
      Option.some.inj
        ((Compact.ofText?_eq_some_iff.mpr ⟨itsDotless, itsText⟩).symm.trans segments)
    cases malformed with
    | segments otherwise => exact otherwise decoded.compact dotless text
    | header compact itsDotless itsText unreadable =>
        rw [unique compact itsDotless itsText, headerRead] at unreadable
        cases unreadable
    | payload compact itsDotless itsText unreadable =>
        rw [unique compact itsDotless itsText, payloadRead] at unreadable
        cases unreadable
  · intro undecoded
    cases segments : Compact.ofText? token with
    | none =>
        refine .segments fun compact dotless text => ?_
        rw [Compact.ofText?_eq_some_iff.mpr ⟨dotless, text⟩] at segments
        cases segments
    | some compact =>
        obtain ⟨dotless, text⟩ := Compact.ofText?_eq_some_iff.mp segments
        cases headerRead : compact.header? with
        | none => exact .header compact dotless text headerRead
        | some header =>
            cases payloadRead : compact.payload? with
            | none => exact .payload compact dotless text payloadRead
            | some payload =>
                exact absurd (decode?_eq_some_iff.mpr ⟨segments, headerRead, payloadRead⟩)
                  (undecoded ⟨compact, header, payload⟩)

/-! ## The first three phases -/

/-- What the first three phases end with, one case for each way in which they can end. -/
inductive Ending (validator : Validator) (resolver : Key.PublicResolver) (token : String) :
    Outcome Claims → Prop
  | malformed (malformed : Malformed token) :
      Ending validator resolver token (.error (.parse "Failed to decode token"))
  | unresolved {decoded : Decoded} {failure : Failure} (decodes : decode? token = some decoded)
      (fails : resolver (decoded.header.kid.getD "") = .error failure) :
      Ending validator resolver token (.error failure)
  | unverified {decoded : Decoded} {key : PublicKey} (decodes : decode? token = some decoded)
      (resolves : resolver (decoded.header.kid.getD "") = .ok key)
      (refuted : validator.verifies decoded key = false) :
      Ending validator resolver token (.error (.signature "Token verification failed"))
  | authentic {decoded : Decoded} {key : PublicKey} (decodes : decode? token = some decoded)
      (resolves : resolver (decoded.header.kid.getD "") = .ok key)
      (verified : validator.verifies decoded key = true) :
      Ending validator resolver token (.ok (claimsOf decoded))

theorem ending_authenticate (validator : Validator) (resolver : Key.PublicResolver)
    (token : String) : Ending validator resolver token (validator.authenticate resolver token) := by
  cases decodes : decode? token with
  | none =>
      simp only [authenticate_eq, decodes]
      exact .malformed (malformed_iff.mpr decodes)
  | some decoded =>
      cases resolves : resolver (keyIdOf decoded.header) with
      | error failure =>
          simp only [authenticate_eq, decodes, resolves]
          exact .unresolved decodes resolves
      | ok key =>
          rw [authenticate_of_resolved decodes resolves]
          split
          · next verified => exact .authentic decodes resolves verified
          · next refuted => exact .unverified decodes resolves (Bool.eq_false_of_not_eq_true refuted)

/-! ## Phases in order -/

/-- The first three phases end in one way, whatever the rules and the circumstances are, and
where they fail no rule is called.  For a malformed token not even the resolver is called.
A resolver that acts does so before the rules, and in the same way for all of them.  Where
neither does anything but return, this is validation. -/
theorem rules_come_last (validator : Validator) (token : String) :
    (∀ resolver : Key.PublicResolver, ∃ ending, Ending validator resolver token ending ∧
      (∀ rules circumstances, validator.validate resolver rules circumstances token =
        ending.bind (checkRules rules circumstances)) ∧
      ∀ failure, ending = .error failure → ∀ (m : Type → Type) [Monad m] [LawfulMonad m]
        (rules : List (Circumstances → Claims → m Verdict)) (circumstances : Circumstances),
        validator.validateM (fun keyId => pure (resolver keyId)) rules circumstances token =
          pure (.error failure)) ∧
    (Malformed token → ∀ (m : Type → Type) [Monad m] (resolver : String → m (Outcome PublicKey))
      (rules : List (Circumstances → Claims → m Verdict)) (circumstances : Circumstances),
      validator.validateM resolver rules circumstances token =
        pure (.error (.parse "Failed to decode token"))) ∧
    (∀ (m : Type → Type) [Monad m] [LawfulMonad m] (resolver : String → m (Outcome PublicKey)),
      ∃ phases : m (Outcome Claims), ∀ (rules : List (Circumstances → Claims → m Verdict))
        (circumstances : Circumstances),
        validator.validateM resolver rules circumstances token =
          phases >>= checkRulesM rules circumstances) ∧
    ∀ (m : Type → Type) [Monad m] [LawfulMonad m] (resolver : Key.PublicResolver)
      (rules : List Rule) (circumstances : Circumstances),
      validator.validateM (m := m) (fun keyId => pure (resolver keyId))
          (rules.map fun rule circumstances claims => pure (rule circumstances claims))
          circumstances token =
        pure (validator.validate resolver rules circumstances token) := by
  refine ⟨fun resolver => ?_, fun malformed m _ resolver rules circumstances => ?_,
    fun m _ _ resolver => ?_, fun m _ _ resolver rules circumstances => ?_⟩
  · refine ⟨validator.authenticate resolver token, ending_authenticate validator resolver token,
      fun rules circumstances => validate_eq_bind validator resolver rules circumstances token, ?_⟩
    intro failure fails m _ _ rules circumstances
    rw [validateM_eq_bind, authenticateM_pure, pure_bind, fails, checkRulesM]
  · rw [validateM, malformed_iff.mp malformed]
    rfl
  · exact ⟨validator.authenticateM resolver token, fun rules circumstances =>
      validateM_eq_bind validator resolver rules circumstances token⟩
  · exact validateM_pure validator resolver rules circumstances token

/-- Calls are counted: there is none for a token of two segments, and none of a rule where the
resolver fails. -/
theorem rules_come_last_sample :
    (Malformed "e30.e30" ∧
      (validateM {} (fun _ => do modify (· + 1); return .ok (.p256 P256.generator))
        [fun _ _ => do modify (· + 1); return .ok ()] ⟨Instant.epoch, []⟩
        "e30.e30" : StateM Nat (Outcome Claims)).run 0 =
          pure (.error (.parse "Failed to decode token"), 0)) ∧
    (validateM {} (fun _ => pure (.error (.resolution "no such key")))
      [fun _ _ => do modify (· + 1); return .ok ()] ⟨Instant.epoch, []⟩
      (Sample.token Sample.payload Sample.signature).text : StateM Nat (Outcome Claims)).run 0 =
        pure (.error (.resolution "no such key"), 0) := by
  constructor
  · have malformed : Malformed "e30.e30" := malformed_iff.mpr rfl
    refine ⟨malformed, ?_⟩
    rw [(rules_come_last {} "e30.e30").2.1 malformed]
    rfl
  · have decodes := decode?_sample Sample.reads_payload (by decide) Sample.signature
    obtain ⟨ending, ends, -, silent⟩ :=
      (rules_come_last {} (Sample.token Sample.payload Sample.signature).text).1
        fun _ => .error (.resolution "no such key")
    have fails : ending = .error (.resolution "no such key") := by
      cases ends with
      | malformed malformed =>
          rw [malformed_iff.mp malformed] at decodes
          cases decodes
      | unresolved _ fails =>
          cases fails
          rfl
      | unverified _ resolves _ => cases resolves
      | authentic _ resolves _ => cases resolves
    rw [silent _ fails]
    rfl

end Attest.Token.Validator
