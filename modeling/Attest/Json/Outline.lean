import Attest.Json.Reader

/-!
# Reading along an outline

An outline says what is wanted of a text: everything, or certain members of an object.  What is
wanted is read strictly.  The values of all other members are skipped: they only have to look like
JSON, so that they may hold numbers beyond the range of doubles and halves of surrogate pairs, and
arrays and objects in them may nest to any depth.
-/

namespace Attest.Json

/-! ## Skipping a value -/

/-- What follows a string whose opening quotation mark has been read. -/
def skipString : List Char → Option (List Char)
  | [] => none
  | '"' :: rest => some rest
  | '\\' :: 'u' :: a :: b :: c :: d :: rest =>
      if (hexUnit? a b c d).isSome then skipString rest else none
  | '\\' :: c :: rest =>
      if (simpleEscape? c).isSome then skipString rest else none
  | c :: rest => if c.toNat < 32 ∨ c = '\\' then none else skipString rest

/-- What follows a number. -/
def skipNumber (text : List Char) : Option (List Char) := do
  let text := match text with
    | '-' :: rest => rest
    | _ => text
  let (_, text) ← readWhole text
  let (_, text) ← readFraction text
  let (_, text) ← readExponent text
  return text

mutual

/-- What follows a value. -/
def skipValue : (fuel : Nat) → List Char → Option (List Char)
  | 0, _ => none
  | _ + 1, 'n' :: 'u' :: 'l' :: 'l' :: rest => some rest
  | _ + 1, 't' :: 'r' :: 'u' :: 'e' :: rest => some rest
  | _ + 1, 'f' :: 'a' :: 'l' :: 's' :: 'e' :: rest => some rest
  | _ + 1, '"' :: rest => skipString rest
  | fuel + 1, '[' :: rest =>
      match skipSpace rest with
      | ']' :: rest => some rest
      | rest => skipItems fuel rest
  | fuel + 1, '{' :: rest =>
      match skipSpace rest with
      | '}' :: rest => some rest
      | rest => skipMembers fuel rest
  | _ + 1, text => skipNumber text

/-- What follows one or more items and the closing bracket. -/
def skipItems : (fuel : Nat) → List Char → Option (List Char)
  | 0, _ => none
  | fuel + 1, text => do
      let rest ← skipValue fuel (skipSpace text)
      match skipSpace rest with
      | ',' :: rest => skipItems fuel rest
      | ']' :: rest => return rest
      | _ => none

/-- What follows one or more members and the closing brace. -/
def skipMembers : (fuel : Nat) → List Char → Option (List Char)
  | 0, _ => none
  | fuel + 1, text =>
      match skipSpace text with
      | '"' :: rest => do
          let rest ← skipString rest
          match skipSpace rest with
          | ':' :: rest => do
              let rest ← skipValue fuel (skipSpace rest)
              match skipSpace rest with
              | ',' :: rest => skipMembers fuel rest
              | '}' :: rest => return rest
              | _ => none
          | _ => none
      | _ => none

end

/-! ## Outlines -/

/-- What is wanted of a text. -/
inductive Outline where
  | whole
  /-- The members of an object with the given names, or the items of an array that stand for
  them. -/
  | record (fields : List (String × Outline))
  /-- The items of an array, of each the same. -/
  | list (item : Outline)

/-- The outline of a record whose fields are wanted as they are. -/
def Outline.ofFields (fields : List String) : Outline :=
  .record (fields.map fun field => (field, .whole))

/-- A member that is wanted, or none of one that is skipped, and what follows. -/
def readMember (name : String) (read : Outline → List Char → Option (Json × List Char))
    (skip : List Char → Option (List Char)) :
    Option Outline → List Char → Option (List (String × Json) × List Char)
  | some outline, text =>
      (read outline text).map fun (value, rest) => ([(name, value)], rest)
  | none, text => (skip text).map fun rest => ([], rest)

mutual

/-- A value along an outline and what follows it, with `depth` more levels of nesting allowed. -/
def readAlong : (fuel depth : Nat) → Outline → List Char → Option (Json × List Char)
  | 0, _, _, _ => none
  | fuel + 1, depth, .whole, text => readValue (fuel + 1) depth text
  | fuel + 1, depth + 1, .record fields, '{' :: rest =>
      match skipSpace rest with
      | '}' :: rest => some (.object [], rest)
      | rest => (readWanted fuel depth fields rest).map fun (members, rest) =>
          (.object members, rest)
  | fuel + 1, depth + 1, .record fields, '[' :: rest =>
      match skipSpace rest with
      | ']' :: rest => some (.array [], rest)
      | rest => (readRow fuel depth (fields.map Prod.snd) .whole rest).map fun (items, rest) =>
          (.array items, rest)
  | fuel + 1, depth + 1, .list item, '[' :: rest =>
      match skipSpace rest with
      | ']' :: rest => some (.array [], rest)
      | rest => (readRow fuel depth [] item rest).map fun (items, rest) => (.array items, rest)
  | fuel + 1, depth, _, text => readValue (fuel + 1) depth text

/-- One or more items up to the closing bracket, each along its own outline or, where these end,
along the same one, and what follows. -/
def readRow : (fuel depth : Nat) → List Outline → Outline → List Char →
    Option (List Json × List Char)
  | 0, _, _, _, _ => none
  | fuel + 1, depth, outlines, beyond, text => do
      let (item, rest) ← readAlong fuel depth (outlines.headD beyond) (skipSpace text)
      match skipSpace rest with
      | ',' :: rest => do
          let (items, rest) ← readRow fuel depth outlines.tail beyond rest
          return (item :: items, rest)
      | ']' :: rest => return ([item], rest)
      | _ => none

/-- The wanted ones of one or more members up to the closing brace, and what follows it. -/
def readWanted : (fuel depth : Nat) → List (String × Outline) → List Char →
    Option (List (String × Json) × List Char)
  | 0, _, _, _ => none
  | fuel + 1, depth, fields, text =>
      match skipSpace text with
      | '"' :: rest => do
          let (name, rest) ← readString rest
          match skipSpace rest with
          | ':' :: rest => do
              let (found, rest) ← readMember name (readAlong fuel depth) (skipValue fuel)
                (Table.find? name fields) (skipSpace rest)
              match skipSpace rest with
              | ',' :: rest => do
                  let (members, rest) ← readWanted fuel depth fields rest
                  return (found ++ members, rest)
              | '}' :: rest => return (found, rest)
              | _ => none
          | _ => none
      | _ => none

end

/-- Read a text along an outline, keeping repeated members. -/
def readOutlined (outline : Outline) (text : String) : Option Json :=
  let chars := text.toList
  match readAlong (2 * chars.length + 2) depthLimit outline (skipSpace chars) with
  | some (value, rest) => if (skipSpace rest).isEmpty then some value else none
  | none => none

end Attest.Json
