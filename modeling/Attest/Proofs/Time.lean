import Attest.Double
import Attest.Time
import Mathlib.Algebra.Order.Group.Unbundled.Int

/-!
# Durations and whole seconds

A duration takes at most so many milliseconds as a signed integer of 64 bits holds.  An instant lies
in the second that began last, before 1970 as well as after.  The second never goes down as time
goes on, and it is another one after a second has passed.
-/

namespace Attest

/-! ## Durations -/

namespace Duration

theorem ofSeconds?_eq_ofMilliseconds? (n : Int) : ofSeconds? n = ofMilliseconds? (n * 1000) := by
  rw [ofSeconds?, ofMilliseconds?, Int.mul_assoc]
  rfl

theorem ofMinutes?_eq_ofMilliseconds? (n : Int) :
    ofMinutes? n = ofMilliseconds? (n * 60 * 1000) := by
  rw [ofMinutes?, ofMilliseconds?, Int.mul_assoc (n * 60)]
  rfl

/-- Milliseconds are too many as soon as they are more than a signed integer of 64 bits holds, in
either direction. -/
theorem ofMilliseconds?_eq_none_iff {n : Int} :
    ofMilliseconds? n = none ↔ greatestMillis < |n| := by
  have unbounded : ¬(-(greatestMillis * nanosPerMilli) ≤ n * nanosPerMilli ∧
      n * nanosPerMilli ≤ greatestMillis * nanosPerMilli) ↔ greatestMillis < |n| := by
    rw [lt_abs, nanosPerMilli]
    omega
  rw [ofMilliseconds?, ofNanoseconds?, ← unbounded]
  split <;> simp [*]

end Duration

/-! ## Instants -/

namespace Instant

variable {s t : Instant} {d : Duration}

theorem add?_eq_some_iff : t.add? d = some s ↔ s.nanoseconds = t.nanoseconds + d.nanoseconds :=
  ofNanoseconds?_eq_some_iff

theorem sub?_eq_some_iff : t.sub? d = some s ↔ s.nanoseconds = t.nanoseconds - d.nanoseconds :=
  ofNanoseconds?_eq_some_iff

/-- So many nanoseconds from the beginning of 1970 there is an instant. -/
def Representable (nanoseconds : Int) : Prop :=
  firstSecond * nanosPerSecond ≤ nanoseconds ∧ nanoseconds < (lastSecond + 1) * nanosPerSecond
deriving Decidable

theorem ofNanoseconds?_eq_none_iff {n : Int} : ofNanoseconds? n = none ↔ ¬Representable n := by
  rw [ofNanoseconds?, Representable]
  split <;> simp [*]

/-- The first instant of the calendar. -/
def earliest : Instant := ⟨firstSecond * nanosPerSecond, by decide⟩

/-- The last instant of the calendar. -/
def latest : Instant := ⟨(lastSecond + 1) * nanosPerSecond - 1, by decide⟩

theorem representable_iff {n : Int} :
    Representable n ↔ earliest.nanoseconds ≤ n ∧ n ≤ latest.nanoseconds :=
  and_congr_right' Int.le_sub_one_iff.symm

theorem add?_eq_none_iff :
    t.add? d = none ↔ ¬Representable (t.nanoseconds + d.nanoseconds) :=
  ofNanoseconds?_eq_none_iff

theorem sub?_eq_none_iff :
    t.sub? d = none ↔ ¬Representable (t.nanoseconds - d.nanoseconds) :=
  ofNanoseconds?_eq_none_iff

/-- The second of an instant has begun, and is not over. -/
theorem seconds_bounds (t : Instant) :
    t.seconds * nanosPerSecond ≤ t.nanoseconds ∧
      t.nanoseconds < t.seconds * nanosPerSecond + nanosPerSecond := by
  constructor
  · exact Int.ediv_mul_le t.nanoseconds (by decide)
  · have begun := Int.lt_ediv_add_one_mul_self t.nanoseconds (by decide : 0 < nanosPerSecond)
    rw [Int.add_mul, Int.one_mul] at begun
    exact begun

/-- An instant comes before a second as its own second does. -/
theorem seconds_lt_iff {n : Int} : t.seconds < n ↔ t.nanoseconds < n * nanosPerSecond :=
  Int.ediv_lt_iff_lt_mul (by decide)

/-- A second has begun at an instant when it is not after the second of the instant. -/
theorem le_seconds_iff {n : Int} : n ≤ t.seconds ↔ n * nanosPerSecond ≤ t.nanoseconds :=
  Int.le_ediv_iff_mul_le (by decide)

theorem seconds_mono (order : s.nanoseconds ≤ t.nanoseconds) : s.seconds ≤ t.seconds :=
  Int.ediv_le_ediv (by decide) order

theorem seconds_lt_of_add_le (later : s.nanoseconds + nanosPerSecond ≤ t.nanoseconds) :
    s.seconds < t.seconds := by
  have begun := (seconds_bounds s).1
  have running := (seconds_bounds t).2
  simp only [nanosPerSecond] at *
  omega

/-- The whole seconds between two instants miss the time between them by less than one. -/
theorem abs_seconds_sub_lt (s t : Instant) :
    |(t.seconds - s.seconds) * nanosPerSecond - (t.nanoseconds - s.nanoseconds)| < nanosPerSecond := by
  have first := seconds_bounds s
  have second := seconds_bounds t
  rw [Int.sub_mul, abs_lt]
  simp only [nanosPerSecond] at *
  omega

/-- Whole seconds later, the second is so many seconds later. -/
theorem seconds_sub_mul_of_dvd (whole : nanosPerSecond ∣ t.nanoseconds - s.nanoseconds) :
    (t.seconds - s.seconds) * nanosPerSecond = t.nanoseconds - s.nanoseconds := by
  have close := abs_seconds_sub_lt s t
  rcases whole with ⟨k, span⟩
  rw [span] at close ⊢
  rw [abs_lt] at close
  simp only [nanosPerSecond] at *
  omega

/-- So many seconds away there is an instant as long as the calendar has that second. -/
theorem exists_seconds_eq_add {n : Int} (first : firstSecond ≤ t.seconds + n)
    (last : t.seconds + n ≤ lastSecond) :
    ∃ s : Instant, s.nanoseconds = t.nanoseconds + n * nanosPerSecond ∧
      s.seconds = t.seconds + n := by
  have bounds := seconds_bounds t
  have inCalendar : firstSecond * nanosPerSecond ≤ t.nanoseconds + n * nanosPerSecond ∧
      t.nanoseconds + n * nanosPerSecond < (lastSecond + 1) * nanosPerSecond := by
    simp only [firstSecond, lastSecond, nanosPerSecond] at *
    omega
  exact ⟨⟨_, inCalendar⟩, rfl, Int.add_mul_ediv_right _ _ (by decide)⟩

theorem exists_add?_of_seconds {n : Int} (whole : d.nanoseconds = n * nanosPerSecond)
    (first : firstSecond ≤ t.seconds + n) (last : t.seconds + n ≤ lastSecond) :
    ∃ s, t.add? d = some s ∧ s.seconds = t.seconds + n := by
  rcases exists_seconds_eq_add first last with ⟨s, span, second⟩
  rw [← whole] at span
  exact ⟨s, add?_eq_some_iff.mpr span, second⟩

theorem exists_sub?_of_seconds {n : Int} (whole : d.nanoseconds = n * nanosPerSecond)
    (first : firstSecond ≤ t.seconds - n) (last : t.seconds - n ≤ lastSecond) :
    ∃ s, t.sub? d = some s ∧ s.seconds = t.seconds - n := by
  rw [Int.sub_eq_add_neg] at first last ⊢
  rcases exists_seconds_eq_add first last with ⟨s, span, second⟩
  rw [Int.neg_mul, ← whole, ← Int.sub_eq_add_neg] at span
  exact ⟨s, sub?_eq_some_iff.mpr span, second⟩

/-- The seconds of the calendar are those of its instants. -/
theorem seconds_mem_calendar (t : Instant) : firstSecond ≤ t.seconds ∧ t.seconds ≤ lastSecond := by
  have inCalendar := t.inCalendar
  have bounds := seconds_bounds t
  simp only [firstSecond, lastSecond, nanosPerSecond] at *
  omega

/-- The seconds of the calendar have far fewer than 64 bits. -/
theorem saturateInt64_seconds (t : Instant) : saturateInt64 t.seconds = t.seconds := by
  have inCalendar := t.inCalendar
  have bounds := seconds_bounds t
  simp only [firstSecond, lastSecond, nanosPerSecond] at inCalendar bounds
  rw [saturateInt64, leastInt64, greatestInt64]
  omega

end Instant

end Attest
