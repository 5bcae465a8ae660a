import Attest.Json.Writer

/-!
# JSON on several lines

A value with every item and every member on a line of its own, indented by two
spaces for each level; empty arrays and objects stay on one line.
-/

namespace Attest.Json

/-- A line break and the indentation of a level. -/
def lineStart (level : Nat) : List Char :=
  '\n' :: List.replicate (2 * level) ' '

mutual

/-- The characters of a value at a level. -/
def prettyChars (level : Nat) : Json → List Char
  | .array (item :: rest) =>
      '[' :: (lineStart (level + 1) ++ (prettyChars (level + 1) item ++ prettyItems level rest))
  | .object ((name, value) :: rest) =>
      '{' :: (lineStart (level + 1) ++ (stringChars name ++ ':' :: ' ' ::
        (prettyChars (level + 1) value ++ prettyMembers level rest)))
  | other => chars other

/-- The items after the first and the closing bracket. -/
def prettyItems (level : Nat) : List Json → List Char
  | [] => lineStart level ++ [']']
  | item :: rest =>
      ',' :: (lineStart (level + 1) ++ (prettyChars (level + 1) item ++ prettyItems level rest))

/-- The members after the first and the closing brace. -/
def prettyMembers (level : Nat) : List (String × Json) → List Char
  | [] => lineStart level ++ ['}']
  | (name, value) :: rest =>
      ',' :: (lineStart (level + 1) ++ (stringChars name ++ ':' :: ' ' ::
        (prettyChars (level + 1) value ++ prettyMembers level rest)))

end

/-- The text of a value on several lines. -/
def pretty (value : Json) : String :=
  String.ofList (prettyChars 0 value)

end Attest.Json
