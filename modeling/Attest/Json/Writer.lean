import Attest.Json
import Attest.Double.Shortest

/-!
# Writing JSON

The compact text of a value: no blanks, members in their order.  In strings the
quotation mark, the backslash and the control characters are escaped, nothing
else.
-/

namespace Attest.Json

/-- A hexadecimal digit, in lower case. -/
def hexDigit (n : Nat) : Char :=
  Nat.digitChar (n % 16)

/-- A character inside a string. -/
def escapedChar (c : Char) : List Char :=
  if c = '"' then ['\\', '"']
  else if c = '\\' then ['\\', '\\']
  else if c = '\x08' then ['\\', 'b']
  else if c = '\x0c' then ['\\', 'f']
  else if c = '\n' then ['\\', 'n']
  else if c = '\r' then ['\\', 'r']
  else if c = '\t' then ['\\', 't']
  else if c.toNat < 32 then ['\\', 'u', '0', '0', hexDigit (c.toNat / 16), hexDigit c.toNat]
  else [c]

/-- The characters of a string, escaped. -/
def escaped (chars : List Char) : List Char :=
  chars.flatMap escapedChar

/-- A string between quotation marks. -/
def stringChars (text : String) : List Char :=
  '"' :: (escaped text.toList ++ ['"'])

/-- An integer in decimal. -/
def intChars (i : Int) : List Char :=
  if i < 0 then '-' :: Nat.toDigits 10 i.natAbs else Nat.toDigits 10 i.natAbs

mutual

/-- The characters of a value. -/
def chars : Json → List Char
  | .null => ['n', 'u', 'l', 'l']
  | .bool true => ['t', 'r', 'u', 'e']
  | .bool false => ['f', 'a', 'l', 's', 'e']
  | .int i => intChars i
  | .float x => x.documentText
  | .string text => stringChars text
  | .array [] => ['[', ']']
  | .array (item :: rest) => '[' :: (chars item ++ restItemChars rest)
  | .object [] => ['{', '}']
  | .object ((name, value) :: rest) =>
      '{' :: (stringChars name ++ ':' :: (chars value ++ restMemberChars rest))

/-- The items after the first and the closing bracket. -/
def restItemChars : List Json → List Char
  | [] => [']']
  | item :: rest => ',' :: (chars item ++ restItemChars rest)

/-- The members after the first and the closing brace. -/
def restMemberChars : List (String × Json) → List Char
  | [] => ['}']
  | (name, value) :: rest =>
      ',' :: (stringChars name ++ ':' :: (chars value ++ restMemberChars rest))

end

/-- The compact text of a value. -/
def write (value : Json) : String :=
  String.ofList (chars value)

end Attest.Json
