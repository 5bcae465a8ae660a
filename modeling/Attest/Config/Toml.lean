import Attest.Config.Toml.Lexeme
import Attest.Config.Toml.Moment
import Attest.Config.Toml.Tree

/-!
# Settings documents in TOML

A document is a sequence of lines: a header declares the table that the following
lines write to, a doubled header begins one more table of a list, and any other line
writes a value under a key.  Lists and tables in values may go over several lines.
-/

namespace Attest.Config.Toml

mutual

/-- A value and what follows it. -/
def readValue? : (fuel : Nat) → List Char → Option (Json × List Char)
  | 0, _ => none
  | fuel + 1, text =>
      match text with
      | '[' :: rest => do
          let (items, rest) ← readItems? fuel rest
          return (.array items, rest)
      | '{' :: rest => do
          let (members, rest) ← readMembers? fuel [] rest
          return (.object (Node.membersToJson members), rest)
      | '"' :: _ | '\'' :: _ =>
          (readString? text).map fun (string, rest) => (.string string, rest)
      | _ =>
          if looksLikeDate text || looksLikeTime text then
            (readMoment? text).map fun (moment, rest) => (.string moment, rest)
          else
            let word := text.takeWhile isWordChar
            (readWord? word).map fun value => (value, text.drop word.length)

/-- The items of a list up to its closing bracket, and what follows it. -/
def readItems? : (fuel : Nat) → List Char → Option (List Json × List Char)
  | 0, _ => none
  | fuel + 1, text => do
      match ← skipTrivia? text.length text with
      | ']' :: rest => return ([], rest)
      | text => do
          let (item, rest) ← readValue? fuel text
          match ← skipTrivia? rest.length rest with
          | ',' :: rest => do
              let (items, rest) ← readItems? fuel rest
              return (item :: items, rest)
          | ']' :: rest => return ([item], rest)
          | _ => none

/-- The members of a table up to its closing brace, put to those before them, and
what follows it. -/
def readMembers? : (fuel : Nat) → Members → List Char → Option (Members × List Char)
  | 0, _, _ => none
  | fuel + 1, members, text => do
      match ← skipTrivia? text.length text with
      | '}' :: rest => return (members, rest)
      | text => do
          let (keys, rest) ← readKey? (text.length + 1) text
          let (value, rest) ← readValue? fuel (skipSpace (← expect? '=' rest))
          let members ← members.assign keys value
          match ← skipTrivia? rest.length rest with
          | ',' :: rest => readMembers? fuel members rest
          | '}' :: rest => return (members, rest)
          | _ => none

end

/-- A document in the making. -/
structure Draft where
  /-- The root table. -/
  root : Members := []
  /-- The keys of the table that lines write to. -/
  current : List String := []

/-- Read one line, or one value on several lines, with something in it. -/
def Draft.readLine? (draft : Draft) (text : List Char) : Option (Draft × List Char) :=
  match text with
  | '[' :: '[' :: rest => do
      let (keys, rest) ← readKey? (rest.length + 1) rest
      let rest ← endOfLine? (← expect? ']' (← expect? ']' rest))
      let root ← Members.changeAt (Members.appendTable (← keys.getLast?)) keys.dropLast draft.root
      return ({ root, current := keys }, rest)
  | '[' :: rest => do
      let (keys, rest) ← readKey? (rest.length + 1) rest
      let rest ← endOfLine? (← expect? ']' rest)
      let root ← Members.changeAt (Members.declare (← keys.getLast?)) keys.dropLast draft.root
      return ({ root, current := keys }, rest)
  | _ => do
      let (keys, rest) ← readKey? (text.length + 1) text
      let value := skipSpace (← expect? '=' rest)
      let (value, rest) ← readValue? (2 * value.length + 2) value
      let root ← Members.changeAt (Members.assign keys value) draft.current draft.root
      return ({ draft with root }, ← endOfLine? rest)

/-- Read lines to the end of the document. -/
def Draft.readLines? : (fuel : Nat) → Draft → List Char → Option Draft
  | 0, _, _ => none
  | fuel + 1, draft, text =>
      let text := skipSpace text
      match text with
      | [] => some draft
      | c :: _ =>
          if c = '#' ∨ c = '\n' ∨ c = '\r' then do
            draft.readLines? fuel (← endOfLine? text)
          else do
            let (draft, rest) ← draft.readLine? text
            draft.readLines? fuel rest

/-- The root table of a document. -/
def parse? (text : String) : Option (Table Json) := do
  let text := match text.toList with
    | '\uFEFF' :: rest => rest
    | text => text
  let draft ← Draft.readLines? (text.length + 1) {} text
  return Node.membersToJson draft.root

end Attest.Config.Toml
