import Attest.Proofs.Double
import Attest.Proofs.Token.Leeway

/-!
# Times that are any number

Claims name times by any number of a document, and the rules on times see its whole part within
64 bits.  So they are exact about whole parts.  A fraction is lost towards zero, which brings the
start of a token forward after 1970 and puts its end off before 1970, by less than a second.
A claim that is no number is seen like one that is missing.
-/

namespace Attest

/-- The exact number that a JSON value stands for; the doubles of a document are finite. -/
def Json.quantity? : Json → Option ℚ
  | .int i => some i
  | .float x => some x.value
  | _ => none

/-- A number of nanoseconds, in seconds. -/
def inSeconds (nanoseconds : Int) : ℚ :=
  nanoseconds / nanosPerSecond

/-- The number has no fraction. -/
def IsWhole (q : ℚ) : Prop :=
  (wholePart q : ℚ) = q

instance (q : ℚ) : Decidable (IsWhole q) :=
  inferInstanceAs (Decidable (_ = _))

theorem cast_nanosPerSecond_pos : (0 : ℚ) < nanosPerSecond :=
  Int.cast_pos.mpr (by decide)

theorem inSeconds_lt_iff {nanoseconds n : Int} :
    inSeconds nanoseconds < n ↔ nanoseconds < n * nanosPerSecond := by
  rw [inSeconds, div_lt_iff₀ cast_nanosPerSecond_pos, ← Int.cast_mul, Int.cast_lt]

theorem le_inSeconds_iff {nanoseconds n : Int} :
    (n : ℚ) ≤ inSeconds nanoseconds ↔ n * nanosPerSecond ≤ nanoseconds := by
  rw [inSeconds, le_div_iff₀ cast_nanosPerSecond_pos, ← Int.cast_mul, Int.cast_le]

/-! ## Sixty-four bits

The seconds of the calendar are far inside the range of 64 bits, so the ends of the range are on
the same side of them as the numbers beyond it.
-/

namespace Instant.Representable

variable {nanoseconds : Int}

theorem lt_saturateInt64_iff (representable : Representable nanoseconds) {n : Int} :
    nanoseconds < saturateInt64 n * nanosPerSecond ↔ nanoseconds < n * nanosPerSecond := by
  simp only [Representable, firstSecond, lastSecond, nanosPerSecond, saturateInt64, leastInt64,
    greatestInt64] at *
  omega

theorem saturateInt64_le_iff (representable : Representable nanoseconds) {n : Int} :
    saturateInt64 n * nanosPerSecond ≤ nanoseconds ↔ n * nanosPerSecond ≤ nanoseconds := by
  simp only [Representable, firstSecond, lastSecond, nanosPerSecond, saturateInt64, leastInt64,
    greatestInt64] at *
  omega

theorem leastInt64_le (representable : Representable nanoseconds) {n : Int}
    (before : inSeconds nanoseconds < n) : leastInt64 ≤ n := by
  rw [inSeconds_lt_iff] at before
  simp only [Representable, firstSecond, lastSecond, nanosPerSecond, leastInt64] at *
  omega

end Instant.Representable

namespace Token

/-! ## Numbers in claims -/

namespace Claims

/-- The exact number that a claim stands for. -/
def quantity? (claims : Claims) (name : String) : Option ℚ :=
  (claims.find? name).bind Json.quantity?

/-- The claim is there, but it is no number. -/
def Malformed (claims : Claims) (name : String) : Prop :=
  ∃ value, claims.find? name = some value ∧ value.quantity? = none

/-- A number as the rules see it. -/
def seen (q : ℚ) : Int :=
  saturateInt64 (wholePart q)

theorem numeric?_eq (value : Json) : numeric? value = value.quantity?.map seen := by
  cases value with
  | int i =>
      rw [numeric?_int]
      exact congrArg (fun n => some (saturateInt64 n)) (wholePart_intCast i).symm
  | float x => exact congrArg (fun n => some (saturateInt64 n)) x.truncate_eq
  | null => rfl
  | bool value => rfl
  | string value => rfl
  | array items => rfl
  | object members => rfl

theorem number?_eq (claims : Claims) (name : String) :
    claims.number? name = (claims.quantity? name).map seen := by
  rw [number?, quantity?, Option.map_bind]
  exact congrArg _ (funext numeric?_eq)

theorem Malformed.quantity?_eq_none {claims : Claims} {name : String}
    (malformed : claims.Malformed name) : claims.quantity? name = none := by
  obtain ⟨value, found, other⟩ := malformed
  rw [quantity?, found, Option.bind_some, other]

end Claims

namespace Rule

open Instant (Representable)
open Claims (seen)

variable {now : Instant} {leeway : Duration} {claims : Claims} {additional : Table Json}

/-! ## Whole parts -/

/-- The expiration rule compares the whole part of the end with the shifted instant, and with the
whole part of the issue within 64 bits. -/
theorem expiration_whole_iff :
    expiration leeway ⟨now, additional⟩ claims = .ok () ↔
      ∃ exp, claims.quantity? "exp" = some exp ∧
        Representable (now.nanoseconds - leeway.nanoseconds) ∧
        inSeconds (now.nanoseconds - leeway.nanoseconds) < wholePart exp ∧
        ∀ iat ∈ claims.quantity? "iat", seen iat ≤ seen exp := by
  rw [expiration_exact_iff (claims.number?_eq "exp") (claims.number?_eq "iat")]
  constructor
  · rintro ⟨e, named, representable, before, ordered⟩
    obtain ⟨exp, ends, rfl⟩ := Option.map_eq_some_iff.mp named
    rw [seen, representable.lt_saturateInt64_iff] at before
    refine ⟨exp, ends, representable, inSeconds_lt_iff.mpr before, ?_⟩
    intro iat issued
    exact ordered (seen iat) (Option.mem_map_of_mem seen issued)
  · rintro ⟨exp, ends, representable, before, ordered⟩
    refine ⟨seen exp, Option.map_eq_some_iff.mpr ⟨exp, ends, rfl⟩, representable, ?_, ?_⟩
    · rw [seen, representable.lt_saturateInt64_iff]
      exact inSeconds_lt_iff.mp before
    · intro i named
      obtain ⟨iat, issued, rfl⟩ := Option.mem_map.mp named
      exact ordered iat issued

theorem unexpired_of_accepted {exp : ℚ}
    (accepted : expiration leeway ⟨now, additional⟩ claims = .ok ())
    (ends : claims.quantity? "exp" = some exp) :
    Representable (now.nanoseconds - leeway.nanoseconds) ∧
      inSeconds (now.nanoseconds - leeway.nanoseconds) < wholePart exp ∧
      ∀ iat ∈ claims.quantity? "iat", seen iat ≤ seen exp := by
  obtain ⟨other, named, decided⟩ := expiration_whole_iff.mp accepted
  cases ends.symm.trans named
  exact decided

/-- The rule on the start compares its whole part with the shifted instant. -/
theorem notBefore_whole_iff {required : Bool} :
    notBefore leeway required ⟨now, additional⟩ claims = .ok () ↔
      (claims.quantity? "nbf" = none ∧ required = false) ∨
        ∃ nbf, claims.quantity? "nbf" = some nbf ∧
          Representable (now.nanoseconds + leeway.nanoseconds) ∧
          (wholePart nbf : ℚ) ≤ inSeconds (now.nanoseconds + leeway.nanoseconds) := by
  rw [notBefore_exact_iff (claims.number?_eq "nbf"), Option.map_eq_none_iff]
  refine or_congr_right ?_
  constructor
  · rintro ⟨n, named, representable, begun⟩
    obtain ⟨nbf, starts, rfl⟩ := Option.map_eq_some_iff.mp named
    rw [seen, representable.saturateInt64_le_iff] at begun
    exact ⟨nbf, starts, representable, le_inSeconds_iff.mpr begun⟩
  · rintro ⟨nbf, starts, representable, begun⟩
    refine ⟨seen nbf, Option.map_eq_some_iff.mpr ⟨nbf, starts, rfl⟩, representable, ?_⟩
    rw [seen, representable.saturateInt64_le_iff]
    exact le_inSeconds_iff.mp begun

/-! ## The numbers themselves -/

/-- What is known of an end whose whole part is yet to come. -/
theorem lt_end_of_lt_wholePart {earliest exp : ℚ} (before : earliest < wholePart exp) :
    earliest < exp + 1 ∧ (0 ≤ exp ∨ IsWhole exp → earliest < exp) := by
  refine ⟨before.trans (wholePart_lt_self_add_one exp), ?_⟩
  rintro (fromZero | whole)
  · exact before.trans_le (wholePart_le_self fromZero)
  · exact before.trans_eq whole

/-- What is known of a start whose whole part has come. -/
theorem start_le_of_wholePart_le {latest nbf : ℚ} (begun : (wholePart nbf : ℚ) ≤ latest) :
    nbf < latest + 1 ∧ (nbf ≤ 0 ∨ IsWhole nbf → nbf ≤ latest) := by
  refine ⟨(self_lt_wholePart_add_one nbf).trans_le (add_le_add_left begun 1), ?_⟩
  rintro (toZero | whole)
  · exact (self_le_wholePart toZero).trans begun
  · exact whole.ge.trans begun

/-- What is known of two times of which the whole part of one is not after that of the other. -/
theorem issue_le_of_wholePart_le {iat exp : ℚ} (ordered : wholePart iat ≤ wholePart exp) :
    iat < exp + 2 ∧ (iat ≤ 0 ∨ IsWhole iat → 0 ≤ exp ∨ IsWhole exp → iat ≤ exp) := by
  have parts : (wholePart iat : ℚ) ≤ wholePart exp := Int.cast_le.mpr ordered
  constructor
  · have issued := self_lt_wholePart_add_one iat
    have ends := wholePart_lt_self_add_one exp
    linarith
  · intro notRaised notLowered
    have issued : iat ≤ wholePart iat := notRaised.elim self_le_wholePart fun whole => whole.ge
    have ends : (wholePart exp : ℚ) ≤ exp :=
      notLowered.elim wholePart_le_self fun whole => whole.le
    exact issued.trans (parts.trans ends)

/-- Within 64 bits two times are seen in the order of their whole parts, the first of them as long
as it is not beyond the end of the range. -/
theorem wholePart_le_of_seen_le {iat exp : ℚ} (ordered : seen iat ≤ seen exp)
    (reached : leastInt64 ≤ wholePart exp) :
    (iat < 2 ^ 63 → wholePart iat ≤ wholePart exp) ∧ (2 ^ 63 ≤ iat → 2 ^ 63 - 1 ≤ exp) := by
  have limit : ((greatestInt64 + 1 : Int) : ℚ) = 2 ^ 63 := by norm_num [greatestInt64]
  simp only [seen, saturateInt64] at ordered
  constructor
  · intro inRange
    have within : wholePart iat < greatestInt64 + 1 :=
      wholePart_lt (by decide) (inRange.trans_eq limit.symm)
    omega
  · intro beyond
    have issued : greatestInt64 + 1 ≤ wholePart iat := by
      rw [← wholePart_intCast (greatestInt64 + 1), limit]
      exact wholePart_mono beyond
    have ends : greatestInt64 ≤ wholePart exp := by
      simp only [leastInt64, greatestInt64] at *
      omega
    have atEnd : ((greatestInt64 : Int) : ℚ) ≤ exp :=
      not_lt.mp fun below => not_lt.mpr ends (wholePart_lt (by decide) below)
    rw [← limit, Int.cast_add, Int.cast_one, add_sub_cancel_right]
    exact atEnd

/-- What the rules on times say about the numbers in claims, at an instant and with a leeway. -/
structure SoundTimes (now : Instant) (leeway : Duration) (claims : Claims) : Prop where
  /-- A token is accepted as long as the whole part of its end is yet to come and not before that
  of its issue, within 64 bits. -/
  expiration_iff : ∀ additional,
    expiration leeway ⟨now, additional⟩ claims = .ok () ↔
      ∃ exp, claims.quantity? "exp" = some exp ∧
        Representable (now.nanoseconds - leeway.nanoseconds) ∧
        inSeconds (now.nanoseconds - leeway.nanoseconds) < wholePart exp ∧
        ∀ iat ∈ claims.quantity? "iat", seen iat ≤ seen exp
  /-- A token is accepted from when the whole part of its start has come. -/
  notBefore_iff : ∀ additional required,
    notBefore leeway required ⟨now, additional⟩ claims = .ok () ↔
      (claims.quantity? "nbf" = none ∧ required = false) ∨
        ∃ nbf, claims.quantity? "nbf" = some nbf ∧
          Representable (now.nanoseconds + leeway.nanoseconds) ∧
          (wholePart nbf : ℚ) ≤ inSeconds (now.nanoseconds + leeway.nanoseconds)
  /-- The end of an accepted token is yet to come; a negative fraction may be over by less than a
  second. -/
  unexpired : ∀ additional, expiration leeway ⟨now, additional⟩ claims = .ok () →
    ∀ exp ∈ claims.quantity? "exp",
      inSeconds (now.nanoseconds - leeway.nanoseconds) < exp + 1 ∧
        (0 ≤ exp ∨ IsWhole exp → inSeconds (now.nanoseconds - leeway.nanoseconds) < exp)
  /-- The issue of an accepted token is not after its end, where cutting off fractions has not
  moved them together. -/
  ordered : ∀ additional, expiration leeway ⟨now, additional⟩ claims = .ok () →
    ∀ exp ∈ claims.quantity? "exp", ∀ iat ∈ claims.quantity? "iat", iat < 2 ^ 63 →
      iat < exp + 2 ∧ (iat ≤ 0 ∨ IsWhole iat → 0 ≤ exp ∨ IsWhole exp → iat ≤ exp)
  /-- An issue beyond 64 bits takes an end that reaches to the end of this range. -/
  ordered_beyond : ∀ additional, expiration leeway ⟨now, additional⟩ claims = .ok () →
    ∀ exp ∈ claims.quantity? "exp", ∀ iat ∈ claims.quantity? "iat", 2 ^ 63 ≤ iat →
      2 ^ 63 - 1 ≤ exp
  /-- The start of an accepted token has come; a positive fraction may be ahead by less than a
  second. -/
  begun : ∀ additional required, notBefore leeway required ⟨now, additional⟩ claims = .ok () →
    ∀ nbf ∈ claims.quantity? "nbf",
      nbf < inSeconds (now.nanoseconds + leeway.nanoseconds) + 1 ∧
        (nbf ≤ 0 ∨ IsWhole nbf → nbf ≤ inSeconds (now.nanoseconds + leeway.nanoseconds))

/-- The rules on times are sound about the numbers in claims, as far as their whole parts tell. -/
theorem soundTimes_of_numbers (now : Instant) (leeway : Duration) (claims : Claims) :
    SoundTimes now leeway claims := by
  constructor
  case expiration_iff =>
    intro additional
    exact expiration_whole_iff
  case notBefore_iff =>
    intro additional required
    exact notBefore_whole_iff
  case unexpired =>
    intro additional accepted exp ends
    exact lt_end_of_lt_wholePart (unexpired_of_accepted accepted ends).2.1
  case ordered =>
    intro additional accepted exp ends iat issued inRange
    obtain ⟨representable, before, ordered⟩ := unexpired_of_accepted accepted ends
    have parts := wholePart_le_of_seen_le (ordered iat issued) (representable.leastInt64_le before)
    exact issue_le_of_wholePart_le (parts.1 inRange)
  case ordered_beyond =>
    intro additional accepted exp ends iat issued beyond
    obtain ⟨representable, before, ordered⟩ := unexpired_of_accepted accepted ends
    have parts := wholePart_le_of_seen_le (ordered iat issued) (representable.leastInt64_le before)
    exact parts.2 beyond
  case begun =>
    intro additional required accepted nbf starts
    rcases notBefore_whole_iff.mp accepted with ⟨missing, -⟩ | ⟨_, starts', -, begun⟩
    · cases starts.symm.trans missing
    · cases starts.symm.trans starts'
      exact start_le_of_wholePart_le begun

/-- Tokens are accepted without any leeway against the numbers in their claims.  A hundred seconds
after 1970, one starts half a second later and was issued a quarter of a second after its end, and
one has both of these times beyond 64 bits; a second and a quarter before 1970, one ended a
quarter of a second earlier. -/
theorem accepted_against_numbers :
    let later : Instant := ⟨100 * nanosPerSecond, by decide⟩
    let earlier : Instant := ⟨-1250000000, by decide⟩
    let early := Claims.ofMembers [("exp", .float (.ofDecimal false 20025 (-2))),
      ("iat", .float (.ofDecimal false 2005 (-1))), ("nbf", .float (.ofDecimal false 1005 (-1)))]
    let endless := Claims.ofMembers [("exp", .int 9223372036854775808),
      ("iat", .int 18446744073709551615)]
    let ended := Claims.ofMembers [("exp", .float (.ofDecimal true 15 (-1)))]
    (notBefore .zero false ⟨later, []⟩ early = .ok () ∧
        ∃ nbf ∈ early.quantity? "nbf", inSeconds later.nanoseconds < nbf) ∧
      (∀ claims ∈ [early, endless], expiration .zero ⟨later, []⟩ claims = .ok () ∧
        ∃ exp ∈ claims.quantity? "exp", ∃ iat ∈ claims.quantity? "iat", exp < iat) ∧
      (expiration .zero ⟨earlier, []⟩ ended = .ok () ∧
        ∃ exp ∈ ended.quantity? "exp", exp < inSeconds earlier.nanoseconds) := by
  intro later earlier early endless ended
  refine ⟨⟨by decide +kernel, 201 / 2, by decide +kernel, by decide +kernel⟩, ?_,
    by decide +kernel, -3 / 2, by decide +kernel, by decide +kernel⟩
  refine List.forall_mem_cons.mpr ⟨?_, List.forall_mem_singleton.mpr ?_⟩
  · exact ⟨by decide +kernel, 801 / 4, by decide +kernel, 401 / 2, by decide +kernel, by decide +kernel⟩
  · exact ⟨by decide +kernel, 2 ^ 63, by decide +kernel, 2 ^ 64 - 1, by decide +kernel, by decide +kernel⟩

/-! ## What is no number -/

/-- At an instant, with a leeway and with or without a start being required, no claim that is there
is taken for a missing one because it is no number. -/
structure RefusesMalformed (now : Instant) (leeway : Duration) (required : Bool)
    (claims : Claims) : Prop where
  start : claims.Malformed "nbf" → ∀ additional,
    notBefore leeway required ⟨now, additional⟩ claims ≠ .ok ()
  ending : claims.Malformed "exp" → ∀ additional,
    expiration leeway ⟨now, additional⟩ claims ≠ .ok ()
  issue : claims.Malformed "iat" → ∀ additional,
    expiration leeway ⟨now, additional⟩ claims ≠ .ok ()

/-- A claim that is no number is refused unless it is a start and none is required, or the time of
issue of a token that has not expired. -/
theorem refusesMalformed_iff (now : Instant) (leeway : Duration) (required : Bool)
    (claims : Claims) :
    RefusesMalformed now leeway required claims ↔
      (claims.Malformed "nbf" → required = true) ∧
        (claims.Malformed "iat" → ∀ exp ∈ claims.quantity? "exp",
          Representable (now.nanoseconds - leeway.nanoseconds) →
            (wholePart exp : ℚ) ≤ inSeconds (now.nanoseconds - leeway.nanoseconds)) := by
  constructor
  · intro refuses
    constructor
    · intro malformed
      by_contra optional
      apply refuses.start malformed []
      exact notBefore_whole_iff.mpr (.inl ⟨malformed.quantity?_eq_none, eq_false_of_ne_true optional⟩)
    · intro malformed exp ends representable
      by_contra before
      apply refuses.issue malformed []
      refine expiration_whole_iff.mpr ⟨exp, ends, representable, not_le.mp before, ?_⟩
      intro iat issued
      cases issued.symm.trans malformed.quantity?_eq_none
  · rintro ⟨started, issued⟩
    constructor
    case start =>
      intro malformed additional accepted
      rcases notBefore_whole_iff.mp accepted with ⟨-, optional⟩ | ⟨nbf, starts, -⟩
      · exact Bool.false_ne_true (optional.symm.trans (started malformed))
      · cases starts.symm.trans malformed.quantity?_eq_none
    case ending =>
      intro malformed additional accepted
      obtain ⟨exp, ends, -⟩ := expiration_whole_iff.mp accepted
      cases ends.symm.trans malformed.quantity?_eq_none
    case issue =>
      intro malformed additional accepted
      obtain ⟨exp, ends, representable, before, -⟩ := expiration_whole_iff.mp accepted
      exact not_le.mpr before (issued malformed exp ends representable)

/-- A token whose start and whose issue are texts passes both rules. -/
theorem malformed_times_accepted :
    let later : Instant := ⟨100 * nanosPerSecond, by decide⟩
    let claims := Claims.ofMembers [("exp", .int 200), ("iat", .string "never"),
      ("nbf", .string "never")]
    claims.Malformed "nbf" ∧ notBefore .zero false ⟨later, []⟩ claims = .ok () ∧
      claims.Malformed "iat" ∧ expiration .zero ⟨later, []⟩ claims = .ok () := by
  intro later claims
  refine ⟨⟨.string "never", rfl, rfl⟩, by decide, ⟨.string "never", rfl, rfl⟩, by decide⟩

end Rule

end Token

end Attest
