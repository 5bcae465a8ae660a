import Attest.Json.Reader
import Attest.Text.Number

/-!
# The words of settings documents

Blanks, comments, strings, keys and numbers.  A string stands on one line or on
several, with escapes or without; in a string on several lines that has escapes, a
backslash at the end of a line joins it with the next text.  Numbers may have
underscores between their digits.
-/

namespace Attest.Config.Toml

/-- Space and tab. -/
def isSpace (c : Char) : Bool :=
  c == ' ' || c == '\t'

/-- The text without leading spaces and tabs. -/
def skipSpace (text : List Char) : List Char :=
  text.dropWhile isSpace

/-- Whether a character may stand in a comment or a string on one line. -/
def isPlain (c : Char) : Bool :=
  c == '\t' || (' ' ≤ c && c != '\x7f')

/-- What follows a line break, if one comes next. -/
def afterBreak? : List Char → Option (List Char)
  | '\n' :: rest => some rest
  | '\r' :: '\n' :: rest => some rest
  | _ => none

/-- The text after a comment, if one comes next; the line break after it stays. -/
def skipComment? (text : List Char) : Option (List Char) :=
  match text with
  | '#' :: rest =>
      let rest := rest.dropWhile isPlain
      if rest.isEmpty || (afterBreak? rest).isSome then some rest else none
  | _ => some text

/-- The text after the end of the line, with blanks and a comment before it. -/
def endOfLine? (text : List Char) : Option (List Char) := do
  let text ← skipComment? (skipSpace text)
  if text.isEmpty then some [] else afterBreak? text

/-- The text after blanks, comments and line breaks. -/
def skipTrivia? : (fuel : Nat) → List Char → Option (List Char)
  | 0, text => some text
  | fuel + 1, text => do
      let text ← skipComment? (skipSpace text)
      match afterBreak? text with
      | some rest => skipTrivia? fuel rest
      | none => some text

/-! ## Strings -/

/-- The character with the given code point. -/
def charOf? (code : Nat) : Option Char :=
  if code < 0xD800 ∨ (0xE000 ≤ code ∧ code < 0x110000) then some (Char.ofNat code) else none

/-- A character given by exactly `count` hexadecimal digits, and what follows it. -/
def readCode? (count : Nat) (text : List Char) : Option (Char × List Char) := do
  let digits := text.take count
  if digits.length ≠ count then none
  return (← charOf? (← Text.natural? 16 digits), text.drop count)

/-- The character that an escape stands for, after the backslash. -/
def readEscape? : List Char → Option (Char × List Char)
  | 'b' :: rest => some ('\x08', rest)
  | 't' :: rest => some ('\t', rest)
  | 'n' :: rest => some ('\n', rest)
  | 'f' :: rest => some ('\x0c', rest)
  | 'r' :: rest => some ('\r', rest)
  | 'e' :: rest => some ('\x1b', rest)
  | '"' :: rest => some ('"', rest)
  | '\\' :: rest => some ('\\', rest)
  | 'x' :: rest => readCode? 2 rest
  | 'u' :: rest => readCode? 4 rest
  | 'U' :: rest => readCode? 8 rest
  | _ => none

/-- A string on one line with escapes, after its opening quote. -/
def readBasic? : (fuel : Nat) → List Char → Option (List Char × List Char)
  | 0, _ => none
  | _ + 1, [] => none
  | fuel + 1, c :: rest =>
      if c = '"' then some ([], rest)
      else if c = '\\' then do
        let (char, rest) ← readEscape? rest
        let (chars, rest) ← readBasic? fuel rest
        return (char :: chars, rest)
      else if isPlain c then do
        let (chars, rest) ← readBasic? fuel rest
        return (c :: chars, rest)
      else none

/-- A string on one line without escapes, after its opening quote. -/
def readLiteral? (text : List Char) : Option (List Char × List Char) :=
  let chars := text.takeWhile fun c => c != '\'' && isPlain c
  match text.drop chars.length with
  | '\'' :: rest => some (chars, rest)
  | _ => none

/-- Blanks and line breaks after a backslash at the end of a line, which join the
lines; nothing when the line does not end there. -/
def joinLines? (text : List Char) : Option (List Char) :=
  match afterBreak? (skipSpace text) with
  | some rest => some (rest.dropWhile fun c => isSpace c || c == '\n' || c == '\r')
  | none => none

/-- A string on several lines, after its opening quotes.  It ends with three quotes,
before which up to two more belong to it. -/
def readLines? (quote : Char) (escapes : Bool) :
    (fuel : Nat) → List Char → Option (List Char × List Char)
  | 0, _ => none
  | _ + 1, [] => none
  | fuel + 1, c :: rest =>
      if c = quote then
        let run := ((c :: rest).take 5).takeWhile fun d => d == quote
        if run.length < 3 then do
          let (chars, rest) ← readLines? quote escapes fuel rest
          return (c :: chars, rest)
        else some (run.drop 3, (c :: rest).drop run.length)
      else if escapes ∧ c = '\\' then
        match joinLines? rest with
        | some rest => readLines? quote escapes fuel rest
        | none => do
            let (char, rest) ← readEscape? rest
            let (chars, rest) ← readLines? quote escapes fuel rest
            return (char :: chars, rest)
      else if isPlain c ∨ (afterBreak? (c :: rest)).isSome then do
        let (chars, rest) ← readLines? quote escapes fuel rest
        return (c :: chars, rest)
      else none

/-- A string on several lines, after its opening quotes: a line break right after
them does not count. -/
def readBlock? (quote : Char) (escapes : Bool) (text : List Char) :
    Option (List Char × List Char) :=
  let text := (afterBreak? text).getD text
  readLines? quote escapes (text.length + 1) text

/-- A string of any kind, if one comes next. -/
def readString? : List Char → Option (String × List Char)
  | '"' :: '"' :: '"' :: rest =>
      (readBlock? '"' true rest).map fun (chars, rest) => (String.ofList chars, rest)
  | '\'' :: '\'' :: '\'' :: rest =>
      (readBlock? '\'' false rest).map fun (chars, rest) => (String.ofList chars, rest)
  | '"' :: rest =>
      (readBasic? (rest.length + 1) rest).map fun (chars, rest) => (String.ofList chars, rest)
  | '\'' :: rest => (readLiteral? rest).map fun (chars, rest) => (String.ofList chars, rest)
  | _ => none

/-! ## Keys -/

/-- Whether a character may be part of a key without quotes. -/
def isKeyChar (c : Char) : Bool :=
  c.isAlphanum || c == '_' || c == '-'

/-- One part of a key. -/
def readKeyPart? (text : List Char) : Option (String × List Char) :=
  match text with
  | '"' :: rest =>
      (readBasic? (rest.length + 1) rest).map fun (chars, rest) => (String.ofList chars, rest)
  | '\'' :: rest => (readLiteral? rest).map fun (chars, rest) => (String.ofList chars, rest)
  | _ =>
      let chars := text.takeWhile isKeyChar
      if chars.isEmpty then none else some (String.ofList chars, text.drop chars.length)

/-- The parts of a key, joined by dots, and what follows them and the blanks after
them. -/
def readKey? : (fuel : Nat) → List Char → Option (List String × List Char)
  | 0, _ => none
  | fuel + 1, text => do
      let (part, rest) ← readKeyPart? (skipSpace text)
      match skipSpace rest with
      | '.' :: rest => do
          let (parts, rest) ← readKey? fuel rest
          return (part :: parts, rest)
      | rest => return ([part], rest)

/-! ## Numbers -/

/-- Digits with the underscores between them removed. -/
def joinDigits? (isDigit : Char → Bool) : List Char → Option (List Char)
  | [] => none
  | [c] => if isDigit c then some [c] else none
  | c :: '_' :: rest => do
      if isDigit c then return c :: (← joinDigits? isDigit rest) else none
  | c :: rest => do
      if isDigit c then return c :: (← joinDigits? isDigit rest) else none

/-- Whether digits are a zero or do not start with one. -/
def noLeadingZero : List Char → Bool
  | '0' :: _ :: _ => false
  | _ => true

/-- Whether a character is a digit in some base. -/
def isDigitOf (base : Nat) (c : Char) : Bool :=
  match Text.digitValue? c with
  | some value => value < base
  | none => false

/-- An integer in some base, without sign. -/
def readBased? (base : Nat) (digits : List Char) : Option Json := do
  let value ← Text.natural? base (← joinDigits? (isDigitOf base) digits)
  if fitsInt64 value then some (.int value) else none

/-- The digits after a point or an exponent mark; none when the text is empty. -/
def fractionDigits? (present : Bool) (text : List Char) : Option (List Char) :=
  if present then joinDigits? Char.isDigit text else if text.isEmpty then some [] else none

/-- A decimal integer or a double. -/
def readDecimal? (negative : Bool) (text : List Char) : Option Json := do
  let (mantissa, exponentPart) := text.span fun c => c != 'e' && c != 'E'
  let (whole, fractionPart) := mantissa.span fun c => c != '.'
  let whole ← joinDigits? Char.isDigit whole
  if !noLeadingZero whole then none
  if exponentPart.isEmpty && fractionPart.isEmpty then
    let value := Double.signed negative (← Text.natural? 10 whole)
    if fitsInt64 value then some (.int value) else none
  else
    let fraction ← fractionDigits? (!fractionPart.isEmpty) (fractionPart.drop 1)
    let (down, exponentDigits) := Text.splitSign (exponentPart.drop 1)
    let exponentDigits ← fractionDigits? (!exponentPart.isEmpty) exponentDigits
    let exponent := Double.signed down ((Text.natural? 10 exponentDigits).getD 0)
    let value := Double.ofDecimal negative (← Text.natural? 10 (whole ++ fraction))
      (exponent - (fraction.length : Int))
    if value.isFinite then some (.float value) else none

/-- A Boolean or a number. -/
def readWord? (word : List Char) : Option Json :=
  match word with
  | ['t', 'r', 'u', 'e'] => some (.bool true)
  | ['f', 'a', 'l', 's', 'e'] => some (.bool false)
  | '0' :: 'x' :: digits => readBased? 16 digits
  | '0' :: 'o' :: digits => readBased? 8 digits
  | '0' :: 'b' :: digits => readBased? 2 digits
  | _ =>
      let (negative, rest) := Text.splitSign word
      match rest with
      | ['i', 'n', 'f'] => some (.float (Double.infinity negative))
      | ['n', 'a', 'n'] => some (.float Double.nan)
      | _ => readDecimal? negative rest

/-- Whether a character may be part of a Boolean or a number. -/
def isWordChar (c : Char) : Bool :=
  c.isAlphanum || c == '+' || c == '-' || c == '.' || c == '_'

end Attest.Config.Toml
