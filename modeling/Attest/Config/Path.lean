import Attest.Json
import Attest.Text.Number

/-!
# Paths in a configuration

A path is a name and then steps: to a member of a table by its name, after a dot, or
to an item of a list by its position, in brackets.  A negative position counts from
the end of the list.  Reading along a path finds nothing where a step does not
apply; writing makes whatever is missing.
-/

namespace Attest.Config

/-- A step of a path. -/
inductive Step where
  | member (name : String)
  | item (position : Int)
  deriving DecidableEq, Repr

/-- A path from the root table. -/
structure Path where
  root : String
  steps : List Step := []
  deriving DecidableEq, Repr

namespace Path

/-! ## Reading the text of a path -/

/-- Whether a character may be part of a name. -/
def isNameChar (c : Char) : Bool :=
  c.isAlphanum || c == '_' || c == '-'

/-- A name at the beginning of a text, and what follows it. -/
def readName? (text : List Char) : Option (String × List Char) :=
  let name := text.takeWhile isNameChar
  if name.isEmpty then none else some (String.ofList name, text.dropWhile isNameChar)

/-- Space and tab, which may stand around a position. -/
def isPadding (c : Char) : Bool :=
  c == ' ' || c == '\t'

/-- A position whose opening bracket has been read, up to its closing bracket, and
what follows it. -/
def readPosition? (text : List Char) : Option (Int × List Char) := do
  let text := text.dropWhile isPadding
  let (negative, text) := match text with
    | '-' :: rest => (true, rest)
    | _ => (false, text)
  let magnitude ← Text.natural? 10 (text.takeWhile Char.isDigit)
  let position := Double.signed negative magnitude
  match (text.dropWhile Char.isDigit).dropWhile isPadding with
  | ']' :: rest => if fitsInt64 position then some (position, rest) else none
  | _ => none

/-- The steps up to the end of a text, at most `fuel` of them. -/
def readSteps? : (fuel : Nat) → List Char → Option (List Step)
  | _, [] => some []
  | 0, _ => none
  | fuel + 1, '.' :: rest => do
      let (name, rest) ← readName? rest
      return .member name :: (← readSteps? fuel rest)
  | fuel + 1, '[' :: rest => do
      let (position, rest) ← readPosition? rest
      return .item position :: (← readSteps? fuel rest)
  | _ + 1, _ => none

/-- The path that a text spells. -/
def ofText? (text : String) : Option Path := do
  let (root, rest) ← readName? text.toList
  return ⟨root, ← readSteps? rest.length rest⟩

/-- The path that a key means: the one it spells, else the key itself. -/
def ofKey (key : String) : Path :=
  (ofText? key).getD ⟨key, []⟩

/-! ## Reading along a path -/

/-- The index that a position means in a list of the given length. -/
def index? (length : Nat) (position : Int) : Option Nat :=
  if 0 ≤ position then some position.toNat
  else if position.natAbs ≤ length then some (length - position.natAbs)
  else none

/-- The value that one step leads to. -/
def step? (value : Json) : Step → Option Json
  | .member name => value.member? name
  | .item position =>
      match value with
      | .array items => (index? items.length position).bind fun index => items[index]?
      | _ => none

/-- The value at a path. -/
def get? (path : Path) (root : Table Json) : Option Json := do
  path.steps.foldlM step? (← Table.find? path.root root)

/-! ## Writing along a path -/

/-- The members of a table; any other value counts as the empty table. -/
def membersOf : Json → Table Json
  | .object members => members
  | _ => []

/-- The items of a list; any other value counts as the empty list. -/
def itemsOf : Json → List Json
  | .array items => items
  | _ => []

mutual

/-- Merge a value into another: members of tables one by one, anything else
replaces what was there. -/
def merge (old : Json) : Json → Json
  | .object members => .object (mergeMembers (membersOf old) members)
  | value => value

/-- Merge members into a table, each under its own name. -/
def mergeMembers (old : Table Json) : List (String × Json) → Table Json
  | [] => old
  | (name, value) :: rest =>
      mergeMembers (Table.insert name (merge ((Table.find? name old).getD .null) value) old) rest

end

/-- Change one item of a list, which gets absent items up to that position: at its
end, or in front of it when a negative position reaches beyond its beginning. -/
def changeItem (change : Json → Json) (position : Int) (items : List Json) : List Json :=
  match index? items.length position with
  | some index =>
      let filled := items ++ List.replicate (index + 1 - items.length) Json.null
      filled.modify index change
  | none =>
      let filled := List.replicate (position.natAbs - items.length) Json.null ++ items
      filled.modify 0 change

/-- Change the value that steps lead to. -/
def change (update : Json → Json) : List Step → Json → Json
  | [], value => update value
  | .member name :: rest, value =>
      let members := membersOf value
      let inner := (Table.find? name members).getD .null
      .object (Table.insert name (change update rest inner) members)
  | .item position :: rest, value =>
      .array (changeItem (change update rest) position (itemsOf value))

/-- Merge a value into what is at a path. -/
def set (path : Path) (value : Json) (root : Table Json) : Table Json :=
  let inner := (Table.find? path.root root).getD .null
  Table.insert path.root (change (fun old => merge old value) path.steps inner) root

end Path

end Attest.Config
