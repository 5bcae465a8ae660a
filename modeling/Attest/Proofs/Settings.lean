import Attest.Proofs.Time
import Attest.Settings

/-!
# Settings that make sense

Settings are taken from a configuration when nothing in them is objected to: then the lifetime
and the skew are within their bounds, and so they are durations of exactly so many minutes and
seconds.  Whatever the values are, they become exact durations or are said to be out of range.
-/

namespace Attest.Settings

variable {settings : Settings} {words : Words} {config : Config} {issuing : Issuing} {checking : Checking}
  {span : Duration} {fault : Fault}

/-- Settings in which every value makes sense. -/
structure Sensible (settings : Settings) : Prop where
  lifetime_pos : 0 < settings.issuing.lifetimeMinutes
  lifetime_le : settings.issuing.lifetimeMinutes ≤ greatestLifetime
  skew_nonneg : 0 ≤ settings.checking.skewSeconds
  skew_le : settings.checking.skewSeconds ≤ greatestSkew
  keys : ∀ entry ∈ settings.publicKeys, entry.value.isSome ∨ entry.path.isSome

theorem objection?_eq_none_iff : settings.objection? = none ↔ settings.Sensible := by
  have unobjected : ∀ (bad : Prop) [Decidable bad] (message : String) (rest : Option String),
      (if bad then some message else rest) = none ↔ ¬bad ∧ rest = none := by
    intro bad _ message rest
    split <;> simp [*]
  have keys : (settings.publicKeys.find? fun entry => entry.value.isNone && entry.path.isNone) =
      none ↔ ∀ entry ∈ settings.publicKeys, entry.value.isSome ∨ entry.path.isSome := by
    rw [List.find?_eq_none]
    refine forall₂_congr fun entry _ => ?_
    cases entry.value <;> cases entry.path <;> simp
  rw [objection?, unobjected, unobjected, unobjected, unobjected, Option.map_eq_none_iff, keys,
    Int.not_le, Int.not_lt, Int.not_lt, Int.not_lt]
  constructor
  · rintro ⟨positive, bounded, forward, close, told⟩
    exact ⟨positive, bounded, forward, close, told⟩
  · rintro ⟨positive, bounded, forward, close, told⟩
    exact ⟨positive, bounded, forward, close, told⟩

/-- Settings are taken from a configuration when they can be read there and make sense. -/
theorem ofConfig_eq_ok_iff :
    ofConfig words config = .ok settings ↔
      read? Config.lenient (.object config.root) = some settings ∧ settings.Sensible := by
  rw [← objection?_eq_none_iff, ofConfig]
  cases read? Config.lenient (.object config.root) with
  | none => simp
  | some found =>
      cases objected : found.objection? with
      | none =>
          simp only [objected, Except.ok.injEq, Option.some.injEq]
          constructor
          · rintro rfl
            exact ⟨rfl, objected⟩
          · rintro ⟨rfl, -⟩
            rfl
      | some message =>
          simp only [objected, reduceCtorEq, Option.some.injEq, false_iff]
          rintro ⟨rfl, silent⟩
          rw [objected] at silent
          cases silent

/-! ## Durations -/

theorem Sensible.exists_lifetime (sensible : settings.Sensible) :
    ∃ lifetime : Duration, settings.issuing.lifetime = .ok lifetime ∧
      lifetime.nanoseconds = 60 * settings.issuing.lifetimeMinutes * nanosPerSecond := by
  have positive := sensible.lifetime_pos
  have bounded := sensible.lifetime_le
  have bounds : -(greatestMillis * nanosPerMilli) ≤
        settings.issuing.lifetimeMinutes * 60 * nanosPerSecond ∧
      settings.issuing.lifetimeMinutes * 60 * nanosPerSecond ≤ greatestMillis * nanosPerMilli := by
    simp only [greatestLifetime, greatestMillis, nanosPerMilli, nanosPerSecond] at *
    omega
  refine ⟨⟨_, bounds⟩, ?_, congrArg (· * nanosPerSecond) (Int.mul_comm _ _)⟩
  rw [Issuing.lifetime, Duration.ofMinutes?, Duration.ofNanoseconds?, dif_pos bounds]

theorem Sensible.exists_skew (sensible : settings.Sensible) :
    ∃ skew : Duration, settings.checking.skew = .ok skew ∧
      skew.nanoseconds = settings.checking.skewSeconds * nanosPerSecond := by
  have forward := sensible.skew_nonneg
  have bounded := sensible.skew_le
  have bounds : -(greatestMillis * nanosPerMilli) ≤
        settings.checking.skewSeconds * nanosPerSecond ∧
      settings.checking.skewSeconds * nanosPerSecond ≤ greatestMillis * nanosPerMilli := by
    simp only [greatestSkew, greatestMillis, nanosPerMilli, nanosPerSecond] at *
    omega
  refine ⟨⟨_, bounds⟩, ?_, rfl⟩
  rw [Checking.skew, Duration.ofSeconds?, Duration.ofNanoseconds?, dif_pos bounds]

theorem Issuing.lifetime_eq_ok_iff :
    issuing.lifetime = .ok span ↔
      span.nanoseconds = issuing.lifetimeMinutes * 60 * nanosPerSecond := by
  rw [lifetime, Duration.ofMinutes?, ← Duration.ofNanoseconds?_eq_some_iff]
  cases Duration.ofNanoseconds? _ <;> simp

theorem Issuing.lifetime_eq_error_iff :
    issuing.lifetime = .error fault ↔
      greatestMillis < |issuing.lifetimeMinutes * 60 * 1000| ∧
        fault = .invalid ("sts.token_expiration_minutes " ++ toString issuing.lifetimeMinutes ++
          " is out of range") := by
  rw [lifetime, ← Duration.ofMilliseconds?_eq_none_iff, ← Duration.ofMinutes?_eq_ofMilliseconds?]
  cases Duration.ofMinutes? _ <;> simp [eq_comm]

theorem Checking.skew_eq_ok_iff :
    checking.skew = .ok span ↔ span.nanoseconds = checking.skewSeconds * nanosPerSecond := by
  rw [skew, Duration.ofSeconds?, ← Duration.ofNanoseconds?_eq_some_iff]
  cases Duration.ofNanoseconds? _ <;> simp

theorem Checking.skew_eq_error_iff :
    checking.skew = .error fault ↔
      greatestMillis < |checking.skewSeconds * 1000| ∧
        fault = .invalid ("validation.clock_skew_seconds " ++ toString checking.skewSeconds ++
          " is out of range") := by
  rw [skew, ← Duration.ofMilliseconds?_eq_none_iff, ← Duration.ofSeconds?_eq_ofMilliseconds?]
  cases Duration.ofSeconds? _ <;> simp [eq_comm]

/-- A lifetime that makes sense takes from a minute to a year. -/
theorem Sensible.lifetime_bounds (sensible : settings.Sensible)
    (converted : settings.issuing.lifetime = .ok span) :
    60 * nanosPerSecond ≤ span.nanoseconds ∧
      span.nanoseconds ≤ 525600 * 60 * nanosPerSecond := by
  have exact := Issuing.lifetime_eq_ok_iff.mp converted
  have positive := sensible.lifetime_pos
  have bounded := sensible.lifetime_le
  simp only [greatestLifetime, nanosPerSecond] at *
  omega

/-- A skew that makes sense takes up to a day. -/
theorem Sensible.skew_bounds (sensible : settings.Sensible)
    (converted : settings.checking.skew = .ok span) :
    0 ≤ span.nanoseconds ∧ span.nanoseconds ≤ 86400 * nanosPerSecond := by
  have exact := Checking.skew_eq_ok_iff.mp converted
  have forward := sensible.skew_nonneg
  have bounded := sensible.skew_le
  simp only [greatestSkew, nanosPerSecond] at *
  omega

end Attest.Settings
