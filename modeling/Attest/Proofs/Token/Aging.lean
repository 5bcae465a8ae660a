import Attest.Clock
import Attest.Proofs.Token.Leeway

/-!
# Verdicts as time goes on

A token that has expired never comes back, and one that has started stays started.  Only the
calendar ends: a shifted instant beyond it is an objection to tokens that passed before.  So the
instants at which a token passes both rules on times follow each other without a gap.
-/

namespace Attest

/-! ## Clocks that move on -/

namespace Clock

variable {clock : Clock} {spans : List Duration} {shown : List Instant}

/-- The instants that a clock shows as it is advanced by one span after the other. -/
def shows? (clock : Clock) : List Duration → Option (List Instant)
  | [] => some [clock.now]
  | span :: spans => do
      let next ← clock.advance? span
      return clock.now :: (← next.shows? spans)

/-- A clock that is advanced into the future has not gone back. -/
theorem now_le_of_advance? {span : Duration} {next : Clock} (forward : 0 ≤ span.nanoseconds)
    (advanced : clock.advance? span = some next) : clock.now.nanoseconds ≤ next.now.nanoseconds := by
  obtain ⟨later, added, rfl⟩ := Option.map_eq_some_iff.mp advanced
  rw [Instant.add?_eq_some_iff.mp added]
  omega

theorem shows?_cons_eq_some_iff {span : Duration} :
    clock.shows? (span :: spans) = some shown ↔
      ∃ next, clock.advance? span = some next ∧
        ∃ rest, next.shows? spans = some rest ∧ clock.now :: rest = shown := by
  simp only [shows?, Option.bind_eq_bind, Option.bind_eq_some_iff, Option.pure_def,
    Option.some.injEq]

/-- Whatever a clock shows later on does not come before what it shows at first. -/
theorem now_le_of_mem_shown (forward : ∀ span ∈ spans, 0 ≤ span.nanoseconds)
    (run : clock.shows? spans = some shown) {t : Instant} (member : t ∈ shown) :
    clock.now.nanoseconds ≤ t.nanoseconds := by
  induction spans generalizing clock shown with
  | nil =>
      cases run
      rw [List.mem_singleton.mp member]
  | cons span spans ih =>
      obtain ⟨next, advanced, rest, continued, rfl⟩ := shows?_cons_eq_some_iff.mp run
      rcases List.mem_cons.mp member with rfl | later
      · exact Int.le_refl _
      · have step := now_le_of_advance? (forward span List.mem_cons_self) advanced
        have ahead : ∀ other ∈ spans, 0 ≤ other.nanoseconds :=
          fun other among => forward other (List.mem_cons_of_mem _ among)
        have others := ih ahead continued later
        exact Int.le_trans step others

/-- A clock that is only advanced into the future shows instants in their order. -/
theorem pairwise_le_of_shows? (forward : ∀ span ∈ spans, 0 ≤ span.nanoseconds)
    (run : clock.shows? spans = some shown) :
    shown.Pairwise fun earlier later => earlier.nanoseconds ≤ later.nanoseconds := by
  induction spans generalizing clock shown with
  | nil =>
      cases run
      exact List.pairwise_singleton _ _
  | cons span spans ih =>
      obtain ⟨next, advanced, rest, continued, rfl⟩ := shows?_cons_eq_some_iff.mp run
      have step := now_le_of_advance? (forward span List.mem_cons_self) advanced
      have ahead : ∀ other ∈ spans, 0 ≤ other.nanoseconds :=
        fun other among => forward other (List.mem_cons_of_mem _ among)
      refine List.pairwise_cons.mpr ⟨?_, ih ahead continued⟩
      intro t member
      exact Int.le_trans step (now_le_of_mem_shown ahead continued member)

end Clock

namespace Token.Rule

open Instant (Representable)

variable {leeway : Duration} {required : Bool} {claims : Claims} {additional : Table Json}
  {earlier later : Circumstances}

/-! ## Two instants -/

/-- What the verdicts of the rules on times at one instant say about those at another. -/
structure Ages (leeway : Duration) (claims : Claims) (earlier later : Circumstances) : Prop where
  /-- An expired token does not come back. -/
  expired : expiration leeway earlier claims = object "Token has expired (exp)" →
    expiration leeway later claims ≠ .ok ()
  /-- A token that has not expired had not expired before. -/
  unexpired : expiration leeway later claims = .ok () →
    Representable (earlier.now.nanoseconds - leeway.nanoseconds) →
      expiration leeway earlier claims = .ok ()
  /-- A token that has started stays started. -/
  begun : ∀ required, notBefore leeway required earlier claims = .ok () →
    claims.number? "nbf" = none ∨ Representable (later.now.nanoseconds + leeway.nanoseconds) →
      notBefore leeway required later claims = .ok ()

/-- A token is reported as expired when the shifted instant has come to its end. -/
theorem end_le_of_expired {circumstances : Circumstances}
    (expired : expiration leeway circumstances claims = object "Token has expired (exp)") :
    ∃ exp, claims.number? "exp" = some exp ∧
      exp * nanosPerSecond ≤ circumstances.now.nanoseconds - leeway.nanoseconds := by
  cases ends : claims.number? "exp" with
  | none =>
      simp only [expiration, ends] at expired
      exact absurd expired (by decide)
  | some exp =>
      refine ⟨exp, rfl, ?_⟩
      cases shifted : circumstances.now.sub? leeway with
      | none =>
          rw [expiration_of_unshifted ends shifted] at expired
          exact absurd expired (by decide)
      | some t =>
          rw [← Instant.sub?_eq_some_iff.mp shifted, ← Instant.le_seconds_iff]
          by_contra before
          simp only [expiration, ends, shifted, if_neg before] at expired
          split at expired
          · split at expired
            · exact absurd expired (by decide)
            · cases expired
          · cases expired

/-- As time goes on, verdicts change from too early to fine to too late only. -/
theorem ages_of_le (order : earlier.now.nanoseconds ≤ later.now.nanoseconds) :
    Ages leeway claims earlier later := by
  constructor
  case expired =>
    intro expired accepted
    obtain ⟨exp, ends, ended⟩ := end_le_of_expired expired
    obtain ⟨other, ends', -, before, -⟩ := (expiration_exact_iff rfl rfl).mp accepted
    cases ends.symm.trans ends'
    omega
  case unexpired =>
    intro accepted representable
    obtain ⟨exp, ends, -, before, ordered⟩ := (expiration_exact_iff rfl rfl).mp accepted
    exact (expiration_exact_iff rfl rfl).mpr ⟨exp, ends, representable, by omega, ordered⟩
  case begun =>
    intro required accepted reaches
    apply (notBefore_exact_iff rfl).mpr
    rcases (notBefore_exact_iff rfl).mp accepted with missing | ⟨nbf, starts, -, begun⟩
    · exact .inl missing
    · rcases reaches with missing | representable
      · cases starts.symm.trans missing
      · exact .inr ⟨nbf, starts, representable, by omega⟩

/-! ## All instants -/

/-- Both rules on times accept the claims at an instant. -/
def InForce (leeway : Duration) (required : Bool) (claims : Claims) (additional : Table Json)
    (now : Instant) : Prop :=
  expiration leeway ⟨now, additional⟩ claims = .ok () ∧
    notBefore leeway required ⟨now, additional⟩ claims = .ok ()

theorem representable_of_inForce {now : Instant}
    (inForce : InForce leeway required claims additional now) :
    Representable (now.nanoseconds - leeway.nanoseconds) ∧
      (claims.number? "nbf" = none ∨ Representable (now.nanoseconds + leeway.nanoseconds)) := by
  obtain ⟨-, -, earliest, -, -⟩ := (expiration_exact_iff rfl rfl).mp inForce.1
  refine ⟨earliest, ?_⟩
  rcases (notBefore_exact_iff rfl).mp inForce.2 with ⟨missing, -⟩ | ⟨-, -, latest, -⟩
  · exact .inl missing
  · exact .inr latest

theorem representable_between {first n last : Int} (after : first ≤ n) (before : n ≤ last)
    (begins : Representable first) (ends : Representable last) : Representable n :=
  ⟨begins.1.trans after, before.trans_lt ends.2⟩

/-- Between two instants at which claims are in force they are so all the time. -/
theorem inForce_between {first now last : Instant}
    (after : first.nanoseconds ≤ now.nanoseconds) (before : now.nanoseconds ≤ last.nanoseconds)
    (begins : InForce leeway required claims additional first)
    (ends : InForce leeway required claims additional last) :
    InForce leeway required claims additional now := by
  obtain ⟨firstEarliest, firstLatest⟩ := representable_of_inForce begins
  obtain ⟨lastEarliest, lastLatest⟩ := representable_of_inForce ends
  have toLast : Ages leeway claims ⟨now, additional⟩ ⟨last, additional⟩ := ages_of_le before
  have fromFirst : Ages leeway claims ⟨first, additional⟩ ⟨now, additional⟩ := ages_of_le after
  constructor
  · apply toLast.unexpired ends.1
    exact representable_between (Int.sub_le_sub_right after _) (Int.sub_le_sub_right before _)
      firstEarliest lastEarliest
  · apply fromFirst.begun required begins.2
    rcases firstLatest with missing | firstLatest
    · exact .inl missing
    rcases lastLatest with missing | lastLatest
    · exact .inl missing
    · exact .inr (representable_between (Int.add_le_add_right after _)
        (Int.add_le_add_right before _) firstLatest lastLatest)

/-- The verdicts on claims age in one direction: at any two instants, along every run of a clock
that is advanced into the future, and so that claims are in force without a gap. -/
theorem verdicts_age (leeway : Duration) (claims : Claims) :
    (∀ earlier later : Circumstances, earlier.now.nanoseconds ≤ later.now.nanoseconds →
      Ages leeway claims earlier later) ∧
    (∀ (clock : Clock) (spans : List Duration) (shown : List Instant),
      (∀ span ∈ spans, 0 ≤ span.nanoseconds) → clock.shows? spans = some shown →
        ∀ additional, shown.Pairwise fun earlier later =>
          Ages leeway claims ⟨earlier, additional⟩ ⟨later, additional⟩) ∧
    ∀ required additional, ∀ first now last : Instant,
      first.nanoseconds ≤ now.nanoseconds → now.nanoseconds ≤ last.nanoseconds →
        InForce leeway required claims additional first →
          InForce leeway required claims additional last →
            InForce leeway required claims additional now := by
  refine ⟨fun earlier later => ages_of_le, ?_, ?_⟩
  · intro clock spans shown forward run additional
    exact (Clock.pairwise_le_of_shows? forward run).imp ages_of_le
  · intro required additional first now last after before begins ends
    exact inForce_between after before begins ends

/-- A clock is advanced by five minutes at the beginning of 1970: a token that ends then stays
expired, and as it starts then it stays started. -/
theorem verdicts_age_sample :
    let claims := Claims.ofMembers [("exp", .int 0), ("nbf", .int 0)]
    let later : Instant := ⟨300 * nanosPerSecond, by decide⟩
    (⟨.epoch⟩ : Clock).shows? [.fiveMinutes] = some [.epoch, later] ∧
      expiration .zero ⟨.epoch, []⟩ claims = object "Token has expired (exp)" ∧
      expiration .zero ⟨later, []⟩ claims ≠ .ok () ∧
      notBefore .zero true ⟨later, []⟩ claims = .ok () := by
  intro claims later
  have run : (⟨.epoch⟩ : Clock).shows? [.fiveMinutes] = some [.epoch, later] := rfl
  have expired : expiration .zero ⟨.epoch, []⟩ claims = object "Token has expired (exp)" := by
    decide
  have pairs := (verdicts_age .zero claims).2.1 ⟨.epoch⟩ [.fiveMinutes] _ (by decide) run []
  have aged : Ages .zero claims ⟨.epoch, []⟩ ⟨later, []⟩ :=
    (List.pairwise_cons.mp pairs).1 later List.mem_cons_self
  exact ⟨run, expired, aged.expired expired, aged.begun true (by decide) (.inr (by decide))⟩

end Token.Rule

end Attest
