import Attest.Json
import Attest.Json.Decimal
import Attest.Octets

/-!
# Reading JSON

A strict reader: one value with blanks around it and nothing else.  Arrays and
objects nest at most 127 deep, a control character or half of a surrogate pair
is refused in a string, and a number beyond the range of doubles is refused.  A
number text without point and exponent whose value has 64 bits is an integer,
any other a double.  `read` keeps repeated members; `parse` settles them.
-/

namespace Attest.Json

/-- How deep arrays and objects may nest. -/
def depthLimit : Nat := 127

/-- Space, tab, line feed and carriage return. -/
def isSpace (c : Char) : Bool :=
  c == ' ' || c == '\t' || c == '\n' || c == '\r'

/-- The text without leading blanks. -/
def skipSpace (text : List Char) : List Char :=
  text.dropWhile isSpace

/-- The number of four hexadecimal digits. -/
def hexUnit? (a b c d : Char) : Option Nat := do
  let a ← Octets.hexValue? a
  let b ← Octets.hexValue? b
  let c ← Octets.hexValue? c
  let d ← Octets.hexValue? d
  return a * 4096 + b * 256 + c * 16 + d

/-- The character that a backslash and one more character stand for. -/
def simpleEscape? (c : Char) : Option Char :=
  if c = '"' ∨ c = '\\' ∨ c = '/' then some c
  else if c = 'b' then some '\x08'
  else if c = 'f' then some '\x0c'
  else if c = 'n' then some '\n'
  else if c = 'r' then some '\r'
  else if c = 't' then some '\t'
  else none

/-- Whether a number is the first half of a surrogate pair. -/
def isHighSurrogate (unit : Nat) : Bool := 0xD800 ≤ unit && unit < 0xDC00

/-- Whether a number is the second half of a surrogate pair. -/
def isLowSurrogate (unit : Nat) : Bool := 0xDC00 ≤ unit && unit < 0xE000

/-- A string up to its closing quotation mark, and what follows it. -/
def readStringChars : List Char → Option (List Char × List Char)
  | [] => none
  | '"' :: rest => some ([], rest)
  | '\\' :: 'u' :: a :: b :: c :: d :: '\\' :: 'u' :: e :: f :: g :: h :: rest => do
      let unit ← hexUnit? a b c d
      if isLowSurrogate unit then none
      else if isHighSurrogate unit then
        let low ← hexUnit? e f g h
        if isLowSurrogate low then
          let char := Char.ofNat (0x10000 + (unit - 0xD800) * 0x400 + (low - 0xDC00))
          let (chars, rest) ← readStringChars rest
          return (char :: chars, rest)
        else none
      else
        let (chars, rest) ← readStringChars ('\\' :: 'u' :: e :: f :: g :: h :: rest)
        return (Char.ofNat unit :: chars, rest)
  | '\\' :: 'u' :: a :: b :: c :: d :: rest => do
      let unit ← hexUnit? a b c d
      if isLowSurrogate unit ∨ isHighSurrogate unit then none
      else
        let (chars, rest) ← readStringChars rest
        return (Char.ofNat unit :: chars, rest)
  | '\\' :: c :: rest => do
      let char ← simpleEscape? c
      let (chars, rest) ← readStringChars rest
      return (char :: chars, rest)
  | c :: rest =>
      if c.toNat < 32 ∨ c = '\\' then none
      else do
        let (chars, rest) ← readStringChars rest
        return (c :: chars, rest)

/-- A string whose opening quotation mark has been read, and what follows it. -/
def readString (text : List Char) : Option (String × List Char) :=
  (readStringChars text).map fun (chars, rest) => (String.ofList chars, rest)

/-- The value of decimal digits. -/
def digitsValue (digits : List Char) : Nat :=
  digits.foldl (fun n c => n * 10 + digitValue c) 0

/-- The whole part of a number: a zero, or digits that do not start with one. -/
def readWhole (text : List Char) : Option (List Char × List Char) :=
  match text with
  | '0' :: rest =>
      match rest with
      | c :: _ => if c.isDigit then none else some (['0'], rest)
      | [] => some (['0'], [])
  | _ =>
      let digits := text.takeWhile Char.isDigit
      if digits.isEmpty then none else some (digits, text.dropWhile Char.isDigit)

/-- The digits after a point, if there is one. -/
def readFraction (text : List Char) : Option (Option (List Char) × List Char) :=
  match text with
  | '.' :: rest =>
      let digits := rest.takeWhile Char.isDigit
      if digits.isEmpty then none else some (some digits, rest.dropWhile Char.isDigit)
  | _ => some (none, text)

/-- The exponent of a number, if there is one. -/
def readExponent (text : List Char) : Option (Option Int × List Char) :=
  match text with
  | c :: rest =>
      if c = 'e' ∨ c = 'E' then
        let (negative, rest) := match rest with
          | '+' :: rest => (false, rest)
          | '-' :: rest => (true, rest)
          | _ => (false, rest)
        let digits := rest.takeWhile Char.isDigit
        if digits.isEmpty then none
        else
          let value : Int := digitsValue digits
          some (some (if negative then -value else value), rest.dropWhile Char.isDigit)
      else some (none, text)
  | [] => some (none, [])

/-- The number with the given parts, unless it is beyond the range of doubles. -/
def number? (negative : Bool) (whole : List Char) (fraction : Option (List Char))
    (exponent : Option Int) : Option Json :=
  let magnitude := digitsValue whole
  let asInt : Int := if negative then -(magnitude : Int) else magnitude
  if fraction.isNone ∧ exponent.isNone ∧ ¬(negative ∧ magnitude = 0) ∧
      leastInt64 ≤ asInt ∧ asInt ≤ greatestUnsigned64 then
    some (.int asInt)
  else
    (Decimal.value? negative whole (fraction.getD []) (exponent.getD 0)).map .float

/-- A number and what follows it. -/
def readNumber (text : List Char) : Option (Json × List Char) := do
  let (negative, text) := match text with
    | '-' :: rest => (true, rest)
    | _ => (false, text)
  let (whole, text) ← readWhole text
  let (fraction, text) ← readFraction text
  let (exponent, text) ← readExponent text
  let value ← number? negative whole fraction exponent
  return (value, text)

mutual

/-- A value and what follows it, with `depth` more levels of nesting allowed. -/
def readValue : (fuel depth : Nat) → List Char → Option (Json × List Char)
  | 0, _, _ => none
  | _ + 1, _, 'n' :: 'u' :: 'l' :: 'l' :: rest => some (.null, rest)
  | _ + 1, _, 't' :: 'r' :: 'u' :: 'e' :: rest => some (.bool true, rest)
  | _ + 1, _, 'f' :: 'a' :: 'l' :: 's' :: 'e' :: rest => some (.bool false, rest)
  | _ + 1, _, '"' :: rest => (readString rest).map fun (text, rest) => (.string text, rest)
  | fuel + 1, depth + 1, '[' :: rest =>
      match skipSpace rest with
      | ']' :: rest => some (.array [], rest)
      | rest => (readItems fuel depth rest).map fun (items, rest) => (.array items, rest)
  | fuel + 1, depth + 1, '{' :: rest =>
      match skipSpace rest with
      | '}' :: rest => some (.object [], rest)
      | rest => (readMembers fuel depth rest).map fun (members, rest) => (.object members, rest)
  | _ + 1, _, text => readNumber text

/-- One or more items up to the closing bracket, and what follows it. -/
def readItems : (fuel depth : Nat) → List Char → Option (List Json × List Char)
  | 0, _, _ => none
  | fuel + 1, depth, text => do
      let (item, rest) ← readValue fuel depth (skipSpace text)
      match skipSpace rest with
      | ',' :: rest => do
          let (items, rest) ← readItems fuel depth rest
          return (item :: items, rest)
      | ']' :: rest => return ([item], rest)
      | _ => none

/-- One or more members up to the closing brace, and what follows it. -/
def readMembers : (fuel depth : Nat) → List Char → Option (List (String × Json) × List Char)
  | 0, _, _ => none
  | fuel + 1, depth, text =>
      match skipSpace text with
      | '"' :: rest => do
          let (name, rest) ← readString rest
          match skipSpace rest with
          | ':' :: rest => do
              let (value, rest) ← readValue fuel depth (skipSpace rest)
              match skipSpace rest with
              | ',' :: rest => do
                  let (members, rest) ← readMembers fuel depth rest
                  return ((name, value) :: members, rest)
              | '}' :: rest => return ([(name, value)], rest)
              | _ => none
          | _ => none
      | _ => none

end

/-- Read a text as one value, keeping repeated members. -/
def readChars (text : List Char) : Option Json :=
  match readValue (2 * text.length + 2) depthLimit (skipSpace text) with
  | some (value, rest) => if (skipSpace rest).isEmpty then some value else none
  | none => none

/-- Read a text as one value, keeping repeated members. -/
def read (text : String) : Option Json :=
  readChars text.toList

/-- Read a text as one settled value. -/
def parse (text : String) : Option Json :=
  (read text).map settle

end Attest.Json
