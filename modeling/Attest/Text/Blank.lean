/-!
# Blank characters

Two sets of blanks are used when keys and settings are read: the characters
with the Unicode property `White_Space`, and the five blanks of ASCII that
armour and line breaks are made of.  Trimming removes blanks of the first set
from the ends of a text; squeezing removes those of the second set everywhere.
-/

namespace Attest.Text

/-- The Unicode property `White_Space`. -/
def isBlank (c : Char) : Bool :=
  let code := c.toNat
  (0x09 ≤ code && code ≤ 0x0D) || code == 0x20 || code == 0x85 || code == 0xA0 ||
    code == 0x1680 || (0x2000 ≤ code && code ≤ 0x200A) || code == 0x2028 ||
    code == 0x2029 || code == 0x202F || code == 0x205F || code == 0x3000

/-- Space, tab, line feed, form feed and carriage return. -/
def isAsciiBlank (c : Char) : Bool :=
  c == ' ' || c == '\t' || c == '\n' || c == '\x0c' || c == '\r'

/-- Every ASCII blank is a blank. -/
theorem isBlank_of_isAsciiBlank {c : Char} (h : isAsciiBlank c = true) :
    isBlank c = true := by
  simp only [isAsciiBlank, Bool.or_eq_true, beq_iff_eq] at h
  rcases h with (((h | h) | h) | h) | h <;> subst h <;> decide

/-- The text without its leading blanks. -/
def trimStart (text : List Char) : List Char :=
  text.dropWhile isBlank

/-- The text without its trailing blanks. -/
def trimEnd (text : List Char) : List Char :=
  (text.reverse.dropWhile isBlank).reverse

/-- The text without its leading and its trailing blanks. -/
def trim (text : List Char) : List Char :=
  trimEnd (trimStart text)

/-- The text without any ASCII blank. -/
def squeeze (text : List Char) : List Char :=
  text.filter fun c => !isAsciiBlank c

@[simp]
theorem squeeze_squeeze (text : List Char) : squeeze (squeeze text) = squeeze text := by
  simp [squeeze, List.filter_filter]

@[simp]
theorem squeeze_append (left right : List Char) :
    squeeze (left ++ right) = squeeze left ++ squeeze right := by
  simp [squeeze]

/-- The part of a text before the first occurrence of `mark` and the part after
it, or nothing when `mark` does not occur. -/
def cutAt? (mark : List Char) : List Char → Option (List Char × List Char)
  | [] => if mark.isEmpty then some ([], []) else none
  | c :: rest =>
      if mark.isPrefixOf (c :: rest) then some ([], (c :: rest).drop mark.length)
      else (cutAt? mark rest).map fun (before, after) => (c :: before, after)

end Attest.Text
