import Attest.Time.Calendar
import Attest.Text.Shown

/-!
# Clocks that are set by hand

A clock shows one instant until it is set or advanced.  Advancing beyond the
calendar is no clock.
-/

namespace Attest

/-- A clock that shows the same instant until it is moved. -/
structure Clock where
  /-- The instant that the clock shows. -/
  now : Instant
  deriving DecidableEq, Repr

namespace Clock

/-- The clock that shows a second, or the beginning of 1970 when that second is
outside the calendar. -/
def atSeconds (seconds : Int) : Clock :=
  ⟨(Instant.ofSeconds? seconds).getD Instant.epoch⟩

/-- The clock that shows a millisecond, or the beginning of 1970 when that is
outside the calendar. -/
def atMilliseconds (milliseconds : Int) : Clock :=
  ⟨(Instant.ofMilliseconds? milliseconds).getD Instant.epoch⟩

/-- The clock moved by a duration. -/
def advance? (clock : Clock) (span : Duration) : Option Clock :=
  (clock.now.add? span).map Clock.mk

/-- How a clock is shown. -/
def shown (clock : Clock) : String :=
  Text.shownRecord "FixedClock"
    [("now", Text.shownRecord "RwLock" [("data", clock.now.text)])]

end Clock

end Attest
