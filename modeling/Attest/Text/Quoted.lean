import Attest.Text.Hidden

/-!
# Quoted text

How a text is shown inside a message: between quotation marks, with quotation
marks and backslashes escaped, the common control characters by a letter, and
any other hidden character by its code point.
-/

namespace Attest.Text

/-- A character inside a quoted text. -/
def quotedChar (c : Char) : List Char :=
  if c = '"' then ['\\', '"']
  else if c = '\\' then ['\\', '\\']
  else if c = '\x00' then ['\\', '0']
  else if c = '\t' then ['\\', 't']
  else if c = '\n' then ['\\', 'n']
  else if c = '\r' then ['\\', 'r']
  else if isHidden c then
    ['\\', 'u', '{'] ++ Nat.toDigits 16 c.toNat ++ ['}']
  else [c]

/-- A text between quotation marks. -/
def quotedChars (text : List Char) : List Char :=
  '"' :: (text.flatMap quotedChar ++ ['"'])

/-- A text between quotation marks. -/
def quoted (text : String) : String :=
  String.ofList (quotedChars text.toList)

/-- Texts between quotation marks, in brackets. -/
def quotedList (texts : List String) : String :=
  "[" ++ String.intercalate ", " (texts.map quoted) ++ "]"

end Attest.Text
