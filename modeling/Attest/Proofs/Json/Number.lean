import Attest.Json.Reader
import Attest.Json.Writer
import Mathlib.Data.List.TakeWhile

/-!
# Written numbers read back

Reading a number stops where nothing that follows could belong to it, so a number that
is read from a text by itself is read from the text with such a continuation too, and a number
that is read is the same number whatever else follows it.  The decimal text of an integer of 64
bits reads back as the integer.
-/

namespace Attest.Json

/-- A text that continues no number. -/
def EndsNumber (rest : List Char) : Prop :=
  ∀ c ∈ rest.head?, c.isDigit = false ∧ c ≠ '.' ∧ c ≠ 'e' ∧ c ≠ 'E'

theorem endsNumber_nil : EndsNumber [] := by
  simp [EndsNumber]

theorem takeWhile_append_of_head {p : Char → Bool} {text rest : List Char}
    (stops : ∀ c ∈ rest.head?, p c = false) :
    (text ++ rest).takeWhile p = text.takeWhile p := by
  induction text with
  | nil =>
      cases rest with
      | nil => rfl
      | cons c rest => simp [stops c rfl]
  | cons c text ih =>
      by_cases h : p c = true <;> simp [h, ih]

theorem dropWhile_append_of_head {p : Char → Bool} {text rest : List Char}
    (stops : ∀ c ∈ rest.head?, p c = false) :
    (text ++ rest).dropWhile p = text.dropWhile p ++ rest := by
  induction text with
  | nil =>
      cases rest with
      | nil => rfl
      | cons c rest => simp [stops c rfl]
  | cons c text ih =>
      by_cases h : p c = true <;> simp [h, ih]

/-! ## The parts of a number -/

section Parts

variable {text left rest : List Char}

theorem readWhole_ne_zero {c : Char} (h : c ≠ '0') :
    readWhole (c :: text) =
      if ((c :: text).takeWhile Char.isDigit).isEmpty then none
      else some ((c :: text).takeWhile Char.isDigit, (c :: text).dropWhile Char.isDigit) := by
  rw [readWhole.eq_def]
  split
  · simp_all
  · rfl

theorem readWhole_append {digits : List Char} (read : readWhole text = some (digits, left))
    (ends : EndsNumber rest) : readWhole (text ++ rest) = some (digits, left ++ rest) := by
  have noDigit : ∀ c ∈ rest.head?, c.isDigit = false := fun c member => (ends c member).1
  cases text with
  | nil => simp [readWhole] at read
  | cons c tail =>
      by_cases zero : c = '0'
      · subst zero
        cases tail with
        | nil =>
            cases read
            cases rest with
            | nil => rfl
            | cons d more => simp [readWhole, noDigit d rfl]
        | cons d more =>
            simp only [readWhole] at read
            split at read
            · contradiction
            · next nondigit =>
              cases read
              simp [readWhole, nondigit]
      · rw [readWhole_ne_zero zero] at read
        rw [List.cons_append, readWhole_ne_zero zero, ← List.cons_append,
          takeWhile_append_of_head noDigit, dropWhile_append_of_head noDigit]
        split at read
        · contradiction
        · next nonempty =>
          cases read
          rw [if_neg nonempty]

theorem readFraction_of_ne_point {c : Char} (h : c ≠ '.') :
    readFraction (c :: text) = some (none, c :: text) := by
  rw [readFraction.eq_def]
  split
  · simp_all
  · rfl

theorem readFraction_append {fraction : Option (List Char)}
    (read : readFraction text = some (fraction, left)) (ends : EndsNumber rest) :
    readFraction (text ++ rest) = some (fraction, left ++ rest) := by
  have noDigit : ∀ c ∈ rest.head?, c.isDigit = false := fun c member => (ends c member).1
  cases text with
  | nil =>
      cases read
      cases rest with
      | nil => rfl
      | cons d more => simp [readFraction, (ends d rfl).2.1]
  | cons c tail =>
      by_cases point : c = '.'
      · subst point
        simp only [readFraction, List.cons_append] at read ⊢
        rw [takeWhile_append_of_head noDigit, dropWhile_append_of_head noDigit]
        split at read
        · contradiction
        · next nonempty =>
          cases read
          rw [if_neg nonempty]
      · rw [readFraction_of_ne_point point] at read
        cases read
        rw [List.cons_append, readFraction_of_ne_point point]

/-- The digits of an exponent with its sign in front of them. -/
def exponentDigits (text : List Char) : Bool × List Char :=
  match text with
  | '+' :: rest => (false, rest)
  | '-' :: rest => (true, rest)
  | _ => (false, text)

theorem exponentDigits_append (h : text ≠ []) :
    exponentDigits (text ++ rest) = ((exponentDigits text).1, (exponentDigits text).2 ++ rest) := by
  cases text with
  | nil => contradiction
  | cons c tail =>
      by_cases plus : c = '+'
      · subst plus
        rfl
      · by_cases minus : c = '-'
        · subst minus
          rfl
        · simp [exponentDigits, plus, minus]

theorem readExponent_of_marker {c : Char} (marker : c = 'e' ∨ c = 'E') :
    readExponent (c :: text) =
      if ((exponentDigits text).2.takeWhile Char.isDigit).isEmpty then none
      else
        let value : Int := digitsValue ((exponentDigits text).2.takeWhile Char.isDigit)
        some (some (if (exponentDigits text).1 then -value else value),
          (exponentDigits text).2.dropWhile Char.isDigit) :=
  if_pos marker

theorem readExponent_of_not_marker {c : Char} (h : ¬ (c = 'e' ∨ c = 'E')) :
    readExponent (c :: text) = some (none, c :: text) := by
  unfold readExponent
  exact if_neg h

theorem readExponent_append {exponent : Option Int}
    (read : readExponent text = some (exponent, left)) (ends : EndsNumber rest) :
    readExponent (text ++ rest) = some (exponent, left ++ rest) := by
  have noDigit : ∀ c ∈ rest.head?, c.isDigit = false := fun c member => (ends c member).1
  cases text with
  | nil =>
      cases read
      cases rest with
      | nil => rfl
      | cons d more => exact readExponent_of_not_marker (by simp [(ends d rfl).2.2])
  | cons c tail =>
      by_cases marker : c = 'e' ∨ c = 'E'
      · rw [readExponent_of_marker marker] at read
        split at read
        · contradiction
        · next nonempty =>
          have more : tail ≠ [] := by
            rintro rfl
            exact nonempty rfl
          cases read
          rw [List.cons_append, readExponent_of_marker marker, exponentDigits_append more,
            takeWhile_append_of_head noDigit, dropWhile_append_of_head noDigit, if_neg nonempty]
      · rw [readExponent_of_not_marker marker] at read
        cases read
        exact readExponent_of_not_marker marker

/-- The parts of a number without its sign. -/
def readUnsigned (negative : Bool) (text : List Char) : Option (Json × List Char) := do
  let (whole, text) ← readWhole text
  let (fraction, text) ← readFraction text
  let (exponent, text) ← readExponent text
  let value ← number? negative whole fraction exponent
  return (value, text)

theorem readNumber_minus : readNumber ('-' :: text) = readUnsigned true text :=
  rfl

theorem readNumber_of_ne_minus {c : Char} (h : c ≠ '-') :
    readNumber (c :: text) = readUnsigned false (c :: text) := by
  rw [readNumber.eq_def]
  simp [h, readUnsigned]

theorem readUnsigned_eq_some_iff {negative : Bool} {value : Json} :
    readUnsigned negative text = some (value, left) ↔
      ∃ whole first fraction second exponent,
        readWhole text = some (whole, first) ∧ readFraction first = some (fraction, second) ∧
          readExponent second = some (exponent, left) ∧
          number? negative whole fraction exponent = some value := by
  simp only [readUnsigned, Option.bind_eq_bind, Option.bind_eq_some_iff, Option.pure_def,
    Option.some.injEq, Prod.mk.injEq, Prod.exists]
  constructor
  · rintro ⟨whole, first, hwhole, fraction, second, hfraction, exponent, _, hexponent, _, hvalue,
      rfl, rfl⟩
    exact ⟨whole, first, fraction, second, exponent, hwhole, hfraction, hexponent, hvalue⟩
  · rintro ⟨whole, first, fraction, second, exponent, hwhole, hfraction, hexponent, hvalue⟩
    exact ⟨whole, first, hwhole, fraction, second, hfraction, exponent, left, hexponent, value,
      hvalue, rfl, rfl⟩

theorem readUnsigned_append {negative : Bool} {value : Json}
    (read : readUnsigned negative text = some (value, left)) (ends : EndsNumber rest) :
    readUnsigned negative (text ++ rest) = some (value, left ++ rest) := by
  rw [readUnsigned_eq_some_iff] at read ⊢
  obtain ⟨whole, first, fraction, second, exponent, hwhole, hfraction, hexponent, hvalue⟩ := read
  exact ⟨whole, first ++ rest, fraction, second ++ rest, exponent, readWhole_append hwhole ends,
    readFraction_append hfraction ends, readExponent_append hexponent ends, hvalue⟩

/-- A number that is read up to a place is read up to that place when a text follows
that continues no number. -/
theorem readNumber_append {value : Json} (read : readNumber text = some (value, left))
    (ends : EndsNumber rest) : readNumber (text ++ rest) = some (value, left ++ rest) := by
  cases text with
  | nil => simp [readNumber, readWhole] at read
  | cons c tail =>
      by_cases minus : c = '-'
      · subst minus
        exact readUnsigned_append read ends
      · rw [readNumber_of_ne_minus minus] at read
        rw [List.cons_append, readNumber_of_ne_minus minus]
        exact readUnsigned_append read ends

/-- A number starts with its sign or a digit. -/
theorem head_of_readNumber {read : Json × List Char} (h : readNumber text = some read) :
    ∃ c tail, text = c :: tail ∧ (c = '-' ∨ c.isDigit = true) := by
  cases text with
  | nil => simp [readNumber, readWhole] at h
  | cons c tail =>
      refine ⟨c, tail, rfl, ?_⟩
      by_cases minus : c = '-'
      · exact Or.inl minus
      · rw [readNumber_of_ne_minus minus] at h
        obtain ⟨whole, first, _, _, _, hwhole, _⟩ := readUnsigned_eq_some_iff.mp h
        right
        by_cases zero : c = '0'
        · subst zero
          rfl
        · rw [readWhole_ne_zero zero] at hwhole
          cases digit : c.isDigit with
          | true => rfl
          | false => simp [digit] at hwhole

end Parts

/-! ## How far a number goes -/

section Extent

variable {text left rest : List Char}

/-- What follows does not begin with a character of the given kind. -/
def Stops (p : Char → Bool) (rest : List Char) : Prop :=
  ∀ c ∈ rest.head?, p c = false

theorem takeWhile_append_of_all {p : Char → Bool} {digits : List Char}
    (all : ∀ c ∈ digits, p c = true) (stops : Stops p rest) :
    (digits ++ rest).takeWhile p = digits ∧ (digits ++ rest).dropWhile p = rest := by
  rw [takeWhile_append_of_head stops, dropWhile_append_of_head stops,
    List.takeWhile_eq_self_iff.mpr all, List.dropWhile_eq_nil_iff.mpr all, List.nil_append]
  exact ⟨rfl, rfl⟩

/-- What was taken from a text is taken again in front of a text at which it stops. -/
theorem takeWhile_append_of_stops {p : Char → Bool} (text : List Char) (stops : Stops p rest) :
    (text.takeWhile p ++ rest).takeWhile p = text.takeWhile p ∧
      (text.takeWhile p ++ rest).dropWhile p = rest :=
  takeWhile_append_of_all (fun c member => List.all_eq_true.mp List.all_takeWhile c member) stops

theorem readWhole_local {digits : List Char} (read : readWhole text = some (digits, left)) :
    text = digits ++ left ∧
      ∀ after, Stops Char.isDigit after → readWhole (digits ++ after) = some (digits, after) := by
  cases text with
  | nil => simp [readWhole] at read
  | cons c tail =>
      by_cases zero : c = '0'
      · subst zero
        have parts : digits = ['0'] ∧ left = tail := by
          cases tail with
          | nil =>
              cases read
              exact ⟨rfl, rfl⟩
          | cons d more =>
              simp only [readWhole] at read
              split at read
              · cases read
              · cases read
                exact ⟨rfl, rfl⟩
        obtain ⟨rfl, rfl⟩ := parts
        refine ⟨rfl, fun after stops => ?_⟩
        cases after with
        | nil => rfl
        | cons d more => simp [readWhole, stops d rfl]
      · rw [readWhole_ne_zero zero] at read
        split at read
        · cases read
        · next nonempty =>
          cases read
          refine ⟨List.takeWhile_append_dropWhile.symm, fun after stops => ?_⟩
          obtain ⟨taken, dropped⟩ := takeWhile_append_of_stops (c :: tail) stops
          obtain ⟨d, more, digits⟩ := List.exists_cons_of_ne_nil (mt List.isEmpty_iff.mpr nonempty)
          have same : d = c := by
            have head := List.takeWhile_prefix Char.isDigit (l := c :: tail)
            rw [digits] at head
            exact (List.cons_prefix_cons.mp head).1
          subst same
          rw [digits] at taken dropped ⊢
          rw [List.cons_append] at taken dropped ⊢
          rw [readWhole_ne_zero zero, taken, dropped]
          rfl

/-- What may follow a fraction: neither a digit nor a point. -/
def endsFraction (c : Char) : Bool :=
  c.isDigit || c == '.'

theorem readFraction_local {fraction : Option (List Char)}
    (read : readFraction text = some (fraction, left)) :
    ∃ spelled, text = spelled ++ left ∧ ∀ after, Stops endsFraction after →
      Stops Char.isDigit (spelled ++ after) ∧
        readFraction (spelled ++ after) = some (fraction, after) := by
  have whole : readFraction text = some (none, text) →
      ∃ spelled, text = spelled ++ left ∧ ∀ after, Stops endsFraction after →
        Stops Char.isDigit (spelled ++ after) ∧
          readFraction (spelled ++ after) = some (fraction, after) := by
    intro none
    rw [none] at read
    cases read
    refine ⟨[], rfl, fun after stops => ⟨fun c member => ?_, ?_⟩⟩
    · exact (Bool.or_eq_false_iff.mp (stops c member)).1
    · cases after with
      | nil => rfl
      | cons d more =>
          have noPoint := (Bool.or_eq_false_iff.mp (stops d rfl)).2
          exact readFraction_of_ne_point (by simpa using noPoint)
  cases text with
  | nil => exact whole rfl
  | cons c tail =>
      by_cases point : c = '.'
      · subst point
        simp only [readFraction] at read
        split at read
        · cases read
        · next nonempty =>
          cases read
          refine ⟨'.' :: tail.takeWhile Char.isDigit, ?_, fun after stops => ⟨?_, ?_⟩⟩
          · rw [List.cons_append, List.takeWhile_append_dropWhile]
          · intro c member
            cases member
            rfl
          · obtain ⟨taken, dropped⟩ := takeWhile_append_of_stops tail
              fun c member => (Bool.or_eq_false_iff.mp (stops c member)).1
            simp only [readFraction, List.cons_append]
            rw [taken, dropped, if_neg nonempty]
      · exact whole (readFraction_of_ne_point point)

/-- A sign, or nothing, stands before the digits of an exponent. -/
theorem exponentDigits_local (text : List Char) :
    ∃ sign, text = sign ++ (exponentDigits text).2 ∧ ∀ c after, c.isDigit = true →
      exponentDigits (sign ++ c :: after) = ((exponentDigits text).1, c :: after) := by
  have plain : ∀ c after, c.isDigit = true → exponentDigits (c :: after) = (false, c :: after) := by
    intro c after digit
    unfold exponentDigits
    split
    · next same =>
        cases same
        cases digit
    · next same =>
        cases same
        cases digit
    · rfl
  unfold exponentDigits
  split
  · exact ⟨['+'], rfl, fun c after _ => rfl⟩
  · exact ⟨['-'], rfl, fun c after _ => rfl⟩
  · exact ⟨[], rfl, plain⟩

theorem readExponent_local {exponent : Option Int}
    (read : readExponent text = some (exponent, left)) :
    ∃ spelled, text = spelled ++ left ∧ ∀ after, EndsNumber after →
      Stops endsFraction (spelled ++ after) ∧
        readExponent (spelled ++ after) = some (exponent, after) := by
  have whole : readExponent text = some (none, text) →
      ∃ spelled, text = spelled ++ left ∧ ∀ after, EndsNumber after →
        Stops endsFraction (spelled ++ after) ∧
          readExponent (spelled ++ after) = some (exponent, after) := by
    intro none
    rw [none] at read
    cases read
    refine ⟨[], rfl, fun after ends => ⟨fun c member => ?_, ?_⟩⟩
    · obtain ⟨noDigit, noPoint, -⟩ := ends c member
      simp [endsFraction, noDigit, noPoint]
    · cases after with
      | nil => rfl
      | cons d more =>
          obtain ⟨-, -, noMarker⟩ := ends d rfl
          exact readExponent_of_not_marker (not_or.mpr noMarker)
  cases text with
  | nil => exact whole rfl
  | cons c tail =>
      by_cases marker : c = 'e' ∨ c = 'E'
      · obtain ⟨sign, parts, signed⟩ := exponentDigits_local tail
        rw [readExponent_of_marker marker] at read
        generalize exponentDigits tail = digits at read parts signed
        split at read
        · cases read
        · next nonempty =>
          cases read
          refine ⟨c :: (sign ++ digits.2.takeWhile Char.isDigit), ?_, fun after ends => ⟨?_, ?_⟩⟩
          · rw [List.cons_append, List.append_assoc, List.takeWhile_append_dropWhile, ← parts]
          · intro d member
            cases member
            rcases marker with rfl | rfl <;> decide
          · obtain ⟨taken, dropped⟩ := takeWhile_append_of_stops digits.2
              fun c member => (ends c member).1
            obtain ⟨d, more, spelled⟩ :=
              List.exists_cons_of_ne_nil (mt List.isEmpty_iff.mpr nonempty)
            have digit := List.all_eq_true.mp List.all_takeWhile d (spelled ▸ List.mem_cons_self)
            rw [spelled] at taken dropped
            rw [List.cons_append, readExponent_of_marker marker, List.append_assoc, spelled,
              List.cons_append, signed d _ digit, ← List.cons_append, taken, dropped]
            rfl
      · exact whole (readExponent_of_not_marker marker)

theorem readUnsigned_local {negative : Bool} {value : Json}
    (read : readUnsigned negative text = some (value, left)) :
    ∃ spelled, text = spelled ++ left ∧ ∀ after, EndsNumber after →
      readUnsigned negative (spelled ++ after) = some (value, after) := by
  obtain ⟨whole, first, fraction, second, exponent, wholeRead, fractionRead, exponentRead, made⟩ :=
    readUnsigned_eq_some_iff.mp read
  obtain ⟨rfl, wholeReads⟩ := readWhole_local wholeRead
  obtain ⟨middle, rfl, fractionReads⟩ := readFraction_local fractionRead
  obtain ⟨last, rfl, exponentReads⟩ := readExponent_local exponentRead
  refine ⟨whole ++ (middle ++ last), by simp only [List.append_assoc], fun after ends => ?_⟩
  obtain ⟨endsFraction, exponentAgain⟩ := exponentReads after ends
  obtain ⟨endsWhole, fractionAgain⟩ := fractionReads _ endsFraction
  refine readUnsigned_eq_some_iff.mpr ⟨whole, _, fraction, _, exponent, ?_, fractionAgain,
    exponentAgain, made⟩
  simp only [List.append_assoc]
  exact wholeReads _ endsWhole

/-- A number is read from its own characters, whatever follows them that continues no number. -/
theorem readNumber_local {value : Json} (read : readNumber text = some (value, left)) :
    ∃ spelled, text = spelled ++ left ∧ ∀ after, EndsNumber after →
      readNumber (spelled ++ after) = some (value, after) := by
  obtain ⟨c, tail, rfl, -⟩ := head_of_readNumber read
  by_cases minus : c = '-'
  · subst minus
    obtain ⟨spelled, rfl, reads⟩ := readUnsigned_local read
    exact ⟨'-' :: spelled, rfl, reads⟩
  · rw [readNumber_of_ne_minus minus] at read
    obtain ⟨spelled, parts, reads⟩ := readUnsigned_local read
    cases spelled with
    | nil =>
        have none := reads [] endsNumber_nil
        simp [readUnsigned, readWhole] at none
    | cons d spelled =>
        cases parts
        refine ⟨c :: spelled, rfl, fun after ends => ?_⟩
        rw [List.cons_append, readNumber_of_ne_minus minus]
        exact reads after ends

end Extent

/-! ## Integers -/

theorem digitsValue_toDigits (n : Nat) : digitsValue (Nat.toDigits 10 n) = n := by
  have swap : digitsValue (Nat.toDigits 10 n) = Nat.ofDigitChars 10 (Nat.toDigits 10 n) 0 := by
    rw [digitsValue, Nat.ofDigitChars_eq_foldl]
    simp only [digitValue, Nat.mul_comm 10]
  rw [swap, Nat.ofDigitChars_ten_toDigits]

/-- Only the text of zero starts with a zero. -/
theorem eq_zero_of_head_toDigits {n : Nat} (h : (Nat.toDigits 10 n).head? = some '0') :
    n = 0 := by
  induction n using Nat.base_induction 10 (by decide) with
  | single m hm =>
      rw [Nat.toDigits_of_lt_base hm, List.head?_cons, Option.some.injEq] at h
      exact (show ∀ k < 10, Nat.digitChar k = '0' → k = 0 by decide) m hm h
  | digit m k hk hm ih =>
      rw [← Nat.toDigits_append_toDigits (by decide) hm hk, List.head?_append,
        Option.or_of_isSome (List.isSome_head?.mpr Nat.toDigits_ne_nil)] at h
      exact absurd (ih h) (Nat.ne_of_gt hm)

theorem readWhole_toDigits (n : Nat) :
    readWhole (Nat.toDigits 10 n) = some (Nat.toDigits 10 n, []) := by
  have digits : ∀ c ∈ Nat.toDigits 10 n, c.isDigit = true := fun c member =>
    Nat.isDigit_of_mem_toDigits (by decide) (by decide) member
  cases h : Nat.toDigits 10 n with
  | nil => exact absurd h Nat.toDigits_ne_nil
  | cons c tail =>
      rw [h] at digits
      by_cases zero : c = '0'
      · subst zero
        have isZero : n = 0 := eq_zero_of_head_toDigits (by rw [h]; rfl)
        subst isZero
        cases h
        rfl
      · rw [readWhole_ne_zero zero, List.takeWhile_eq_self_iff.mpr digits,
          List.dropWhile_eq_nil_iff.mpr digits]
        rfl

/-- Digits without point and exponent are an integer, unless they are too many or a zero
below zero. -/
theorem number?_of_integer {negative : Bool} {digits : List Char} {i : Int}
    (value : (if negative then -(digitsValue digits : Int) else digitsValue digits) = i)
    (noMinusZero : ¬(negative = true ∧ digitsValue digits = 0)) (low : leastInt64 ≤ i)
    (high : i ≤ greatestUnsigned64) : number? negative digits none none = some (.int i) := by
  subst value
  rw [number?]
  exact if_pos ⟨rfl, rfl, noMinusZero, low, high⟩

/-- The decimal text of an integer of 64 bits reads back as the integer. -/
theorem readNumber_intChars {i : Int} (low : leastInt64 ≤ i) (high : i ≤ greatestUnsigned64) :
    readNumber (intChars i) = some (.int i, []) := by
  have whole := readWhole_toDigits i.natAbs
  have value := digitsValue_toDigits i.natAbs
  rw [intChars]
  split
  · next negative =>
    rw [readNumber_minus, readUnsigned_eq_some_iff]
    refine ⟨_, _, none, [], none, whole, rfl, rfl, ?_⟩
    have minus : -((i.natAbs : Nat) : Int) = i := by omega
    have nonzero : i.natAbs ≠ 0 := by omega
    rw [← value] at minus nonzero
    exact number?_of_integer minus (fun zero => nonzero zero.2) low high
  · next negative =>
    have plus : ((i.natAbs : Nat) : Int) = i := by omega
    have unsigned : readUnsigned false (Nat.toDigits 10 i.natAbs) = some (.int i, []) := by
      rw [readUnsigned_eq_some_iff]
      refine ⟨_, _, none, [], none, whole, rfl, rfl, ?_⟩
      rw [← value] at plus
      exact number?_of_integer plus (by simp) low high
    cases h : Nat.toDigits 10 i.natAbs with
    | nil => exact absurd h Nat.toDigits_ne_nil
    | cons c tail =>
        have digit : c.isDigit = true :=
          Nat.isDigit_of_mem_toDigits (by decide) (by decide) (h ▸ List.mem_cons_self)
        rw [readNumber_of_ne_minus (by rintro rfl; contradiction), ← h, unsigned]

end Attest.Json
