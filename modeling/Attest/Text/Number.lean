import Attest.Double

/-!
# Numbers in running text

The number that a whole text spells, without blanks around it: an integer of 64
bits in some base, or a double.  A sign may stand in front of either.  A double is a
decimal with or without point and exponent, or one of the words for infinity and for
no number, in either case.
-/

namespace Attest.Text

/-- Whether a minus sign stands in front, and the text after the sign. -/
def splitSign : List Char → Bool × List Char
  | '+' :: rest => (false, rest)
  | '-' :: rest => (true, rest)
  | text => (false, text)

/-- The value of a digit, letters in either case counting from ten. -/
def digitValue? (c : Char) : Option Nat :=
  if '0' ≤ c ∧ c ≤ '9' then some (c.toNat - '0'.toNat)
  else if 'a' ≤ c ∧ c ≤ 'z' then some (c.toNat - 'a'.toNat + 10)
  else if 'A' ≤ c ∧ c ≤ 'Z' then some (c.toNat - 'A'.toNat + 10)
  else none

/-- One more digit of a number. -/
def pushDigit? (base n : Nat) (c : Char) : Option Nat := do
  let digit ← digitValue? c
  if digit < base then some (n * base + digit) else none

/-- The number that one or more digits spell. -/
def natural? (base : Nat) (digits : List Char) : Option Nat :=
  if digits.isEmpty then none else digits.foldlM (pushDigit? base) 0

/-- The integer of 64 bits that a text spells. -/
def int64? (base : Nat) (text : List Char) : Option Int := do
  let (negative, digits) := splitSign text
  let magnitude ← natural? base digits
  let value := Double.signed negative magnitude
  if fitsInt64 value then some value else none

/-- The exponent at the end of a decimal, zero when there is none. -/
def exponent? : List Char → Option Int
  | [] => some 0
  | c :: rest => do
      let (negative, digits) := splitSign rest
      if c = 'e' ∨ c = 'E' then return Double.signed negative (← natural? 10 digits) else none

/-- The double that an unsigned decimal spells. -/
def decimal? (negative : Bool) (text : List Char) : Option Double := do
  let whole := text.takeWhile Char.isDigit
  let rest := text.dropWhile Char.isDigit
  let (fraction, rest) := match rest with
    | '.' :: rest => (rest.takeWhile Char.isDigit, rest.dropWhile Char.isDigit)
    | _ => ([], rest)
  let digits ← natural? 10 (whole ++ fraction)
  let exponent ← exponent? rest
  return Double.ofDecimal negative digits (exponent - (fraction.length : Int))

/-- The double that a text spells. -/
def double? (text : List Char) : Option Double :=
  let (negative, rest) := splitSign text
  let word := rest.map Char.toLower
  if word = ['i', 'n', 'f'] ∨ word = ['i', 'n', 'f', 'i', 'n', 'i', 't', 'y'] then
    some (Double.infinity negative)
  else if word = ['n', 'a', 'n'] then some Double.nan
  else decimal? negative rest

end Attest.Text
