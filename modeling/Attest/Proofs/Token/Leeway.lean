import Attest.Proofs.Token.Claims
import Attest.Proofs.Token.Rule

/-!
# Times that are exact

Claims name whole seconds, and the rules on times compare them with the second of a shifted
instant.  Where the claims are integers nothing is lost by this: the rules decide as if the shifted
instant itself were compared, to the nanosecond, before 1970 as well as after.  A shift that leaves
the calendar is an objection like any other.
-/

namespace Attest.Token

/-- A claim is absent, or an integer of 64 bits. -/
structure Claims.IntegerAt (claims : Claims) (name : String) (value : Option Int) : Prop where
  find?_eq : claims.find? name = value.map Json.int
  bounds : ∀ i ∈ value, leastInt64 ≤ i ∧ i ≤ greatestInt64

theorem Claims.IntegerAt.number?_eq {claims : Claims} {name : String} {value : Option Int}
    (integer : claims.IntegerAt name value) : claims.number? name = value := by
  rw [number?, integer.find?_eq]
  cases value with
  | none => rfl
  | some i =>
      have bounds := integer.bounds i rfl
      rw [Option.map_some, Option.bind_some, numeric?_int, saturateInt64, min_eq_right bounds.2,
        max_eq_right bounds.1]

namespace Rule

open Instant (Representable)

variable {now : Instant} {leeway : Duration} {claims : Claims} {exp iat nbf : Option Int}

/-- What the rules on times say about claims that name the given seconds, at an instant and with a
leeway. -/
structure ExactTimes (now : Instant) (leeway : Duration) (claims : Claims)
    (exp iat nbf : Option Int) : Prop where
  /-- A token expires when the instant less the leeway has come to its end. -/
  expiration_iff : ∀ additional,
    expiration leeway ⟨now, additional⟩ claims = .ok () ↔
      ∃ e, exp = some e ∧ Representable (now.nanoseconds - leeway.nanoseconds) ∧
        now.nanoseconds - leeway.nanoseconds < e * nanosPerSecond ∧ ∀ i ∈ iat, i ≤ e
  /-- A token is valid when the instant plus the leeway has come to its start. -/
  notBefore_iff : ∀ additional required,
    notBefore leeway required ⟨now, additional⟩ claims = .ok () ↔
      (nbf = none ∧ required = false) ∨
        ∃ n, nbf = some n ∧ Representable (now.nanoseconds + leeway.nanoseconds) ∧
          n * nanosPerSecond ≤ now.nanoseconds + leeway.nanoseconds
  /-- Where the claim is there but the shifted instant is not, the leeway is to blame. -/
  expiration_unshifted : ∀ additional, exp ≠ none →
    ¬Representable (now.nanoseconds - leeway.nanoseconds) →
      expiration leeway ⟨now, additional⟩ claims =
        .error ⟨["Clock skew leeway is out of range"]⟩
  notBefore_unshifted : ∀ additional required, nbf ≠ none →
    ¬Representable (now.nanoseconds + leeway.nanoseconds) →
      notBefore leeway required ⟨now, additional⟩ claims =
        .error ⟨["Clock skew leeway is out of range"]⟩
  /-- There is no third way beside passing and objecting with one message. -/
  expiration_settles : ∀ additional, expiration leeway ⟨now, additional⟩ claims = .ok () ∨
    ∃ message, expiration leeway ⟨now, additional⟩ claims = .error ⟨[message]⟩
  notBefore_settles : ∀ additional required,
    notBefore leeway required ⟨now, additional⟩ claims = .ok () ∨
      ∃ message, notBefore leeway required ⟨now, additional⟩ claims = .error ⟨[message]⟩

/-! ## Each rule by itself -/

/-- The second of the shifted instant comes before an end exactly when the shifted instant does. -/
theorem expiration_exact_iff {additional : Table Json} (ends : claims.number? "exp" = exp)
    (issued : claims.number? "iat" = iat) :
    expiration leeway ⟨now, additional⟩ claims = .ok () ↔
      ∃ e, exp = some e ∧ Representable (now.nanoseconds - leeway.nanoseconds) ∧
        now.nanoseconds - leeway.nanoseconds < e * nanosPerSecond ∧ ∀ i ∈ iat, i ≤ e := by
  rw [expiration_eq_ok_iff, ends, issued]
  refine exists_congr fun e => ?_
  constructor
  · rintro ⟨shifted, named, isShifted, before, ordered⟩
    have exact := Instant.sub?_eq_some_iff.mp isShifted
    rw [Instant.seconds_lt_iff, exact] at before
    exact ⟨named, exact ▸ shifted.inCalendar, before, ordered⟩
  · rintro ⟨named, representable, before, ordered⟩
    let shifted : Instant := ⟨now.nanoseconds - leeway.nanoseconds, representable⟩
    exact ⟨shifted, named, Instant.sub?_eq_some_iff.mpr rfl, Instant.seconds_lt_iff.mpr before,
      ordered⟩

/-- The second of the shifted instant has come to a start exactly when the shifted instant has. -/
theorem notBefore_exact_iff {additional : Table Json} {required : Bool}
    (starts : claims.number? "nbf" = nbf) :
    notBefore leeway required ⟨now, additional⟩ claims = .ok () ↔
      (nbf = none ∧ required = false) ∨
        ∃ n, nbf = some n ∧ Representable (now.nanoseconds + leeway.nanoseconds) ∧
          n * nanosPerSecond ≤ now.nanoseconds + leeway.nanoseconds := by
  rw [notBefore_eq_ok_iff, starts]
  refine or_congr_right (exists_congr fun n => ?_)
  constructor
  · rintro ⟨shifted, named, isShifted, begun⟩
    have exact := Instant.add?_eq_some_iff.mp isShifted
    rw [Instant.le_seconds_iff, exact] at begun
    exact ⟨named, exact ▸ shifted.inCalendar, begun⟩
  · rintro ⟨named, representable, begun⟩
    let shifted : Instant := ⟨now.nanoseconds + leeway.nanoseconds, representable⟩
    exact ⟨shifted, named, Instant.add?_eq_some_iff.mpr rfl, Instant.le_seconds_iff.mpr begun⟩

/-! ## Both rules -/

/-- The rules on times are exact about claims that are integers. -/
theorem exactTimes_of_integers (now : Instant) (leeway : Duration)
    (ends : claims.IntegerAt "exp" exp) (issued : claims.IntegerAt "iat" iat)
    (starts : claims.IntegerAt "nbf" nbf) : ExactTimes now leeway claims exp iat nbf := by
  constructor
  case expiration_iff =>
    intro additional
    exact expiration_exact_iff ends.number?_eq issued.number?_eq
  case notBefore_iff =>
    intro additional required
    exact notBefore_exact_iff starts.number?_eq
  case expiration_unshifted =>
    intro additional named unrepresentable
    obtain ⟨e, rfl⟩ := Option.ne_none_iff_exists'.mp named
    exact expiration_of_unshifted ends.number?_eq (Instant.sub?_eq_none_iff.mpr unrepresentable)
  case notBefore_unshifted =>
    intro additional required named unrepresentable
    obtain ⟨n, rfl⟩ := Option.ne_none_iff_exists'.mp named
    exact notBefore_of_unshifted starts.number?_eq (Instant.add?_eq_none_iff.mpr unrepresentable)
  case expiration_settles =>
    intro additional
    exact expiration_eq_ok_or_object leeway ⟨now, additional⟩ claims
  case notBefore_settles =>
    intro additional required
    exact notBefore_eq_ok_or_object leeway required ⟨now, additional⟩ claims

/-- Half a second before 1970 and with a leeway of a quarter, a token that ends and starts with
1970 has not expired and has not started; the longest leeway leads out of the calendar. -/
theorem exactTimes_of_integers_sample :
    let now : Instant := ⟨-500000000, by decide⟩
    let quarter : Duration := ⟨250000000, by decide⟩
    let longest : Duration := ⟨greatestMillis * nanosPerMilli, by decide⟩
    let claims := Claims.ofMembers [("exp", .int 0), ("iat", .int (-1)), ("nbf", .int 0)]
    expiration quarter ⟨now, []⟩ claims = .ok () ∧
      notBefore quarter false ⟨now, []⟩ claims ≠ .ok () ∧
      notBefore longest false ⟨now, []⟩ claims =
        .error ⟨["Clock skew leeway is out of range"]⟩ := by
  intro now quarter longest claims
  have ends : claims.IntegerAt "exp" (some 0) := ⟨rfl, by decide⟩
  have issued : claims.IntegerAt "iat" (some (-1)) := ⟨rfl, by decide⟩
  have starts : claims.IntegerAt "nbf" (some 0) := ⟨rfl, by decide⟩
  have near := exactTimes_of_integers now quarter ends issued starts
  have far := exactTimes_of_integers now longest ends issued starts
  refine ⟨(near.expiration_iff []).mpr ⟨0, rfl, by decide, by decide, by decide⟩, ?_,
    far.notBefore_unshifted [] false (by simp) (by decide)⟩
  rw [Ne, near.notBefore_iff]
  decide

end Rule

end Attest.Token
