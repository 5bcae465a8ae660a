/-!
# Instants and durations

An instant counts nanoseconds from the beginning of 1970 and lies in the years
-262143 to 262142.  A duration is a signed number of nanoseconds within
± (2^63 - 1) milliseconds.  Shifting an instant by a duration gives nothing when
the result leaves the calendar, so no operation ever wraps around.
-/

namespace Attest

/-- Nanoseconds in a second. -/
def nanosPerSecond : Int := 1000000000

/-- Nanoseconds in a millisecond. -/
def nanosPerMilli : Int := 1000000

/-- The greatest number of milliseconds in a duration, 2^63 - 1. -/
def greatestMillis : Int := 9223372036854775807

/-- A span of time. -/
structure Duration where
  /-- Its length, negative for a span into the past. -/
  nanoseconds : Int
  /-- It has at most 2^63 - 1 milliseconds. -/
  bounded : -(greatestMillis * nanosPerMilli) ≤ nanoseconds ∧
    nanoseconds ≤ greatestMillis * nanosPerMilli
  deriving DecidableEq, Repr

namespace Duration

/-- The duration of a number of nanoseconds, if it is not too long. -/
def ofNanoseconds? (n : Int) : Option Duration :=
  if h : -(greatestMillis * nanosPerMilli) ≤ n ∧ n ≤ greatestMillis * nanosPerMilli then
    some ⟨n, h⟩
  else none

/-- The duration of a number of milliseconds. -/
def ofMilliseconds? (n : Int) : Option Duration :=
  ofNanoseconds? (n * nanosPerMilli)

/-- The duration of a number of seconds. -/
def ofSeconds? (n : Int) : Option Duration :=
  ofNanoseconds? (n * nanosPerSecond)

/-- The duration of a number of minutes. -/
def ofMinutes? (n : Int) : Option Duration :=
  ofNanoseconds? (n * 60 * nanosPerSecond)

/-- No time at all. -/
def zero : Duration := ⟨0, by decide⟩

/-- Five minutes. -/
def fiveMinutes : Duration := ⟨300000000000, by decide⟩

/-- The whole seconds of a duration. -/
def seconds (d : Duration) : Int :=
  d.nanoseconds.tdiv nanosPerSecond

/-- The whole milliseconds of a duration. -/
def milliseconds (d : Duration) : Int :=
  d.nanoseconds.tdiv nanosPerMilli

theorem ofNanoseconds?_eq_some_iff {n : Int} {d : Duration} :
    ofNanoseconds? n = some d ↔ d.nanoseconds = n := by
  unfold ofNanoseconds?
  constructor
  · intro h
    split at h
    · cases h
      rfl
    · cases h
  · rintro rfl
    rw [dif_pos d.bounded]

end Duration

/-- The first second of the calendar. -/
def firstSecond : Int := -8334601228800

/-- The last second of the calendar. -/
def lastSecond : Int := 8210266876799

/-- A point in time. -/
structure Instant where
  /-- Nanoseconds since the beginning of 1970. -/
  nanoseconds : Int
  /-- It lies in the calendar. -/
  inCalendar :
    firstSecond * nanosPerSecond ≤ nanoseconds ∧
      nanoseconds < (lastSecond + 1) * nanosPerSecond
  deriving DecidableEq, Repr

namespace Instant

/-- The beginning of 1970. -/
def epoch : Instant := ⟨0, by decide⟩

/-- The instant so many nanoseconds after the beginning of 1970. -/
def ofNanoseconds? (n : Int) : Option Instant :=
  if h : firstSecond * nanosPerSecond ≤ n ∧ n < (lastSecond + 1) * nanosPerSecond then
    some ⟨n, h⟩
  else none

/-- The instant so many seconds after the beginning of 1970. -/
def ofSeconds? (n : Int) : Option Instant :=
  ofNanoseconds? (n * nanosPerSecond)

/-- The instant so many milliseconds after the beginning of 1970. -/
def ofMilliseconds? (n : Int) : Option Instant :=
  ofNanoseconds? (n * nanosPerMilli)

/-- The second in which an instant lies. -/
def seconds (t : Instant) : Int :=
  t.nanoseconds / nanosPerSecond

/-- The instant a duration later. -/
def add? (t : Instant) (d : Duration) : Option Instant :=
  ofNanoseconds? (t.nanoseconds + d.nanoseconds)

/-- The instant a duration earlier. -/
def sub? (t : Instant) (d : Duration) : Option Instant :=
  ofNanoseconds? (t.nanoseconds - d.nanoseconds)

theorem ofNanoseconds?_eq_some_iff {n : Int} {t : Instant} :
    ofNanoseconds? n = some t ↔ t.nanoseconds = n := by
  unfold ofNanoseconds?
  constructor
  · intro h
    split at h
    · cases h
      rfl
    · cases h
  · rintro rfl
    rw [dif_pos t.inCalendar]

end Instant

end Attest
