import Attest.Proofs.Key.Preload
import Attest.Proofs.Settings
import Attest.Proofs.Token.Obstacles

/-!
# Settings that stay in range

Settings are checked once, when they are loaded.  Later the minutes and seconds in them become
durations, and the present instant is shifted by these: by the lifetime to the end of a token, and
by the skew, back and forth, for the rules on times.  The bounds of the check are such that no
shift leaves the calendar well within it, and that every public key has a text to be preloaded
from.  Settings that were never checked become durations that are as exact, or are out of range
and are said to be.
-/

namespace Attest

/-! ## Well within the calendar -/

/-- Nanoseconds in a day. -/
def nanosPerDay : Int := 24 * 60 * 60 * nanosPerSecond

namespace Instant

variable {t : Instant} {span : Duration}

/-- More than a day after the first instant of the calendar and more than 366 days before the
last one. -/
structure Interior (t : Instant) : Prop where
  after : earliest.nanoseconds + nanosPerDay < t.nanoseconds
  before : t.nanoseconds + 366 * nanosPerDay < latest.nanoseconds

namespace Interior

theorem exists_add? (interior : t.Interior) (forward : 0 ≤ span.nanoseconds)
    (short : span.nanoseconds ≤ 366 * nanosPerDay) : ∃ later, t.add? span = some later := by
  have representable : Representable (t.nanoseconds + span.nanoseconds) := by
    have inside := (representable_iff.mp t.inCalendar).1
    have before := interior.before
    exact representable_iff.mpr (by omega)
  exact ⟨⟨_, representable⟩, add?_eq_some_iff.mpr rfl⟩

theorem exists_sub? (interior : t.Interior) (forward : 0 ≤ span.nanoseconds)
    (short : span.nanoseconds ≤ nanosPerDay) : ∃ earlier, t.sub? span = some earlier := by
  have representable : Representable (t.nanoseconds - span.nanoseconds) := by
    have inside := (representable_iff.mp t.inCalendar).2
    have after := interior.after
    exact representable_iff.mpr (by omega)
  exact ⟨⟨_, representable⟩, sub?_eq_some_iff.mpr rfl⟩

end Interior

end Instant

/-! ## Loaded settings -/

namespace Settings

open Token

/-- Nothing that is done with settings leads out of range. -/
structure StaysInRange (settings : Settings) : Prop where
  /-- The lifetime is a duration from a minute to a year. -/
  lifetime : ∃ lifetime, settings.issuing.lifetime = .ok lifetime ∧
    lifetime.nanoseconds = settings.issuing.lifetimeMinutes * 60 * nanosPerSecond ∧
      60 * nanosPerSecond ≤ lifetime.nanoseconds ∧
        lifetime.nanoseconds ≤ 525600 * 60 * nanosPerSecond
  /-- The skew is a duration of up to a day. -/
  skew : ∃ skew, settings.checking.skew = .ok skew ∧
    skew.nanoseconds = settings.checking.skewSeconds * nanosPerSecond ∧
      0 ≤ skew.nanoseconds ∧ skew.nanoseconds ≤ 86400 * nanosPerSecond
  /-- With the lifetime, a token that is asked for well within the calendar has an end, and no
  failure to issue it is due to the lifetime. -/
  issue : ∀ lifetime, settings.issuing.lifetime = .ok lifetime →
    ∀ (scheme : SignatureScheme) (supplies : Supplies) (claims : List (String × Json))
      (audience : String), supplies.now.Interior →
        (∃ expires, supplies.now.add? lifetime = some expires) ∧
          ∀ span, Issuer.issue ⟨lifetime, scheme⟩ supplies claims audience ≠
            .error (Issuer.lifetimeOutOfRange span)
  /-- With the skew as their leeway, the rules on times can tell the shifted instant well within the
  calendar, and no objection of theirs is due to the leeway. -/
  expiration : ∀ skew, settings.checking.skew = .ok skew →
    ∀ (circumstances : Circumstances) (claims : Claims), circumstances.now.Interior →
      (∃ earlier, circumstances.now.sub? skew = some earlier) ∧
        Rule.leewayOutOfRange ∉ (Rule.expiration skew circumstances claims).messages
  notBefore : ∀ skew, settings.checking.skew = .ok skew →
    ∀ (required : Bool) (circumstances : Circumstances) (claims : Claims),
      circumstances.now.Interior →
        (∃ later, circumstances.now.add? skew = some later) ∧
          Rule.leewayOutOfRange ∉ (Rule.notBefore skew required circumstances claims).messages
  /-- No entry lacks both a text and a path, whatever service its key is put at hand in. -/
  preload : ∀ (files : Files) (service : Key.LocalService) (id : String),
    (service.preload files settings.publicKeys).1 ≠ .error (Key.LocalService.withoutText id)

/-- How settings become durations: exactly, or not at all when they are more milliseconds than a
signed integer of 64 bits holds. -/
structure Converts (settings : Settings) : Prop where
  lifetime_ok_iff : ∀ lifetime, settings.issuing.lifetime = .ok lifetime ↔
    lifetime.nanoseconds = settings.issuing.lifetimeMinutes * 60 * nanosPerSecond
  lifetime_error_iff : ∀ fault, settings.issuing.lifetime = .error fault ↔
    greatestMillis < |settings.issuing.lifetimeMinutes * 60 * 1000| ∧
      fault = .invalid ("sts.token_expiration_minutes " ++
        toString settings.issuing.lifetimeMinutes ++ " is out of range")
  skew_ok_iff : ∀ skew, settings.checking.skew = .ok skew ↔
    skew.nanoseconds = settings.checking.skewSeconds * nanosPerSecond
  skew_error_iff : ∀ fault, settings.checking.skew = .error fault ↔
    greatestMillis < |settings.checking.skewSeconds * 1000| ∧
      fault = .invalid ("validation.clock_skew_seconds " ++
        toString settings.checking.skewSeconds ++ " is out of range")

theorem converts (settings : Settings) : settings.Converts := by
  constructor
  case lifetime_ok_iff => exact fun lifetime => Issuing.lifetime_eq_ok_iff
  case lifetime_error_iff => exact fun fault => Issuing.lifetime_eq_error_iff
  case skew_ok_iff => exact fun skew => Checking.skew_eq_ok_iff
  case skew_error_iff => exact fun fault => Checking.skew_eq_error_iff

theorem Sensible.staysInRange {settings : Settings} (sensible : settings.Sensible) :
    settings.StaysInRange := by
  have year : 525600 * 60 * nanosPerSecond ≤ 366 * nanosPerDay := by decide
  have day : 86400 * nanosPerSecond = nanosPerDay := by decide
  constructor
  case lifetime =>
    obtain ⟨lifetime, converted, -⟩ := sensible.exists_lifetime
    exact ⟨lifetime, converted, Issuing.lifetime_eq_ok_iff.mp converted,
      sensible.lifetime_bounds converted⟩
  case skew =>
    obtain ⟨skew, converted, exact⟩ := sensible.exists_skew
    exact ⟨skew, converted, exact, sensible.skew_bounds converted⟩
  case issue =>
    intro lifetime converted scheme supplies claims audience interior
    obtain ⟨long, short⟩ := sensible.lifetime_bounds converted
    have forward : 0 ≤ lifetime.nanoseconds := le_trans (by decide) long
    obtain ⟨expires, later⟩ := interior.exists_add? forward (short.trans year)
    exact ⟨⟨expires, later⟩, Issuer.issue_ne_lifetimeOutOfRange later claims audience⟩
  case expiration =>
    intro skew converted circumstances claims interior
    obtain ⟨forward, short⟩ := sensible.skew_bounds converted
    obtain ⟨shifted, earlier⟩ := interior.exists_sub? forward (short.trans day.le)
    exact ⟨⟨shifted, earlier⟩, Rule.leewayOutOfRange_notMem_expiration earlier claims⟩
  case notBefore =>
    intro skew converted required circumstances claims interior
    obtain ⟨forward, short⟩ := sensible.skew_bounds converted
    obtain ⟨shifted, later⟩ := interior.exists_add? forward (short.trans (by decide))
    exact ⟨⟨shifted, later⟩, Rule.leewayOutOfRange_notMem_notBefore later required claims⟩
  case preload =>
    intro files service id
    exact Key.LocalService.preload_ne_withoutText sensible.keys files service id

/-- Settings that load never lead out of range, and settings of any values become durations
exactly or are out of range. -/
theorem staysInRange_of_ofConfig :
    (∀ words config settings, ofConfig words config = .ok settings → settings.StaysInRange) ∧
      ∀ settings : Settings, settings.Converts := by
  constructor
  · intro words config settings loaded
    exact (ofConfig_eq_ok_iff.mp loaded).2.staysInRange
  · exact converts

/-- A lifetime of a year and a skew of a day load.  At the first nanosecond that is well within the
calendar the skew leads back into it, and at the last one the lifetime leads to an end of a token.
Minutes that nobody has checked are said to be out of range. -/
theorem staysInRange_of_ofConfig_sample :
    let config : Config := ⟨[("sts", .object [("token_expiration_minutes", .int 525600)]),
      ("validation", .object [("clock_skew_seconds", .int 86400)]),
      ("public_keys", .array [.object [("id", .string "bob"), ("path", .string "bob.pem")]])]⟩
    let settings : Settings := ⟨⟨"", "", 525600⟩, ⟨86400, none⟩, [⟨"bob", none, some "bob.pem"⟩]⟩
    let unchecked : Settings := { issuing := ⟨"", "", greatestMillis⟩ }
    let first : Instant := ⟨-8334601142399999999999, by decide⟩
    let last : Instant := ⟨8210235254399999999998, by decide⟩
    (∀ words, ofConfig words config = .ok settings) ∧
      (∃ skew shifted, settings.checking.skew = .ok skew ∧ first.sub? skew = some shifted) ∧
      (∃ lifetime expires, settings.issuing.lifetime = .ok lifetime ∧
        last.add? lifetime = some expires) ∧
      (∀ files service, (Key.LocalService.preload files service settings.publicKeys).1 ≠
        .error (Key.LocalService.withoutText "bob")) ∧
      unchecked.issuing.lifetime = .error (.invalid
        "sts.token_expiration_minutes 9223372036854775807 is out of range") := by
  intro config settings unchecked first last
  have loaded : ∀ words, ofConfig words config = .ok settings := fun _ => rfl
  have inRange := staysInRange_of_ofConfig.1 ⟨"", fun _ => ""⟩ config settings (loaded _)
  obtain ⟨skew, tolerated, -⟩ := inRange.skew
  obtain ⟨lifetime, living, -⟩ := inRange.lifetime
  obtain ⟨⟨shifted, earlier⟩, -⟩ :=
    inRange.expiration skew tolerated ⟨first, []⟩ (.ofMembers []) ⟨by decide, by decide⟩
  obtain ⟨⟨expires, later⟩, -⟩ :=
    inRange.issue lifetime living (.standard .none []) ⟨.error (.resolution "none"), none, last, []⟩ []
      "bob" ⟨by decide, by decide⟩
  refine ⟨loaded, ⟨skew, shifted, tolerated, earlier⟩, ⟨lifetime, expires, living, later⟩,
    fun files service => inRange.preload files service "bob", ?_⟩
  exact ((staysInRange_of_ofConfig.2 unchecked).lifetime_error_iff _).mpr ⟨by decide, rfl⟩

end Settings

end Attest
