import Attest.Time.Calendar

/-!
# Dates and times in settings

A date, a time of day, or both with an optional offset from universal time.  Seconds
may be left out and have up to nine places; further places are cut off.  A moment is
kept as its canonical text.
-/

namespace Attest.Config.Toml

/-- The number of exactly `count` digits, and what follows them. -/
def readDigits? (count : Nat) (text : List Char) : Option (Nat × List Char) :=
  let digits := text.take count
  if digits.length = count ∧ digits.all Char.isDigit then
    some (digits.foldl (fun n c => n * 10 + (c.toNat - '0'.toNat)) 0, text.drop count)
  else none

/-- A character that has to come next. -/
def expect? (c : Char) : List Char → Option (List Char)
  | d :: rest => if d = c then some rest else none
  | [] => none

/-- A date. -/
def readDate? (text : List Char) : Option (String × List Char) := do
  let (year, text) ← readDigits? 4 text
  let (month, text) ← readDigits? 2 (← expect? '-' text)
  let (day, text) ← readDigits? 2 (← expect? '-' text)
  if 1 ≤ month ∧ month ≤ 12 ∧ 1 ≤ day ∧ day ≤ Date.daysInMonth year month then
    return (paddedDigits 4 year ++ "-" ++ paddedDigits 2 month ++ "-" ++ paddedDigits 2 day, text)
  else none

/-- The places after the second, as they are kept. -/
def fractionOf (digits : List Char) : String :=
  let kept := ((digits.take 9).reverse.dropWhile fun c => c == '0').reverse
  String.ofList (if kept.isEmpty then ['0'] else kept)

/-- The second of a time of day, if there is one. -/
def readSecond? : List Char → Option (String × List Char)
  | ':' :: text => do
      let (second, text) ← readDigits? 2 text
      if 60 < second then none
      else
        match text with
        | '.' :: text =>
            let digits := text.takeWhile Char.isDigit
            if digits.isEmpty then none
            else
              return (":" ++ paddedDigits 2 second ++ "." ++ fractionOf digits,
                text.dropWhile Char.isDigit)
        | text => return (":" ++ paddedDigits 2 second, text)
  | text => some ("", text)

/-- A time of day. -/
def readTime? (text : List Char) : Option (String × List Char) := do
  let (hour, text) ← readDigits? 2 text
  let (minute, text) ← readDigits? 2 (← expect? ':' text)
  let (second, text) ← readSecond? text
  if hour ≤ 23 ∧ minute ≤ 59 then
    return (paddedDigits 2 hour ++ ":" ++ paddedDigits 2 minute ++ second, text)
  else none

/-- An offset in hours and minutes after its sign. -/
def readHoursOffset? (sign : String) (text : List Char) : Option (String × List Char) := do
  let (hour, text) ← readDigits? 2 text
  let (minute, text) ← readDigits? 2 (← expect? ':' text)
  if hour ≤ 23 ∧ minute ≤ 59 then
    let sign := if hour = 0 ∧ minute = 0 then "+" else sign
    return (sign ++ paddedDigits 2 hour ++ ":" ++ paddedDigits 2 minute, text)
  else none

/-- An offset from universal time, if there is one. -/
def readOffset? : List Char → Option (String × List Char)
  | 'Z' :: text | 'z' :: text => some ("Z", text)
  | '+' :: text => readHoursOffset? "+" text
  | '-' :: text => readHoursOffset? "-" text
  | text => some ("", text)

/-- A time of day with an optional offset, after a date. -/
def readRest? (date : String) (text : List Char) : Option (String × List Char) := do
  let (time, text) ← readTime? text
  let (offset, text) ← readOffset? text
  return (date ++ "T" ++ time ++ offset, text)

/-- Whether a text begins like a date. -/
def looksLikeDate (text : List Char) : Bool :=
  match readDigits? 4 text with
  | some (_, '-' :: _) => true
  | _ => false

/-- Whether a text begins like a time of day. -/
def looksLikeTime (text : List Char) : Bool :=
  match readDigits? 2 text with
  | some (_, ':' :: _) => true
  | _ => false

/-- A moment, and what follows it. -/
def readMoment? (text : List Char) : Option (String × List Char) :=
  if looksLikeTime text then readTime? text
  else do
    let (date, text) ← readDate? text
    match text with
    | 'T' :: rest | 't' :: rest => readRest? date rest
    | ' ' :: rest => if looksLikeTime rest then readRest? date rest else return (date, text)
    | _ => return (date, text)

end Attest.Config.Toml
