import Attest.Json

/-!
# Tables in the making

A document of tables is read into a tree that remembers how each table came to be:
declared by a header, implied by a longer header, or made by a dotted key.  A table
is declared at most once, a value is never written twice, and a dotted key only
extends tables that dotted keys have made.
-/

namespace Attest.Config.Toml

/-- How a table came to be. -/
inductive Standing where
  /-- By a header of its own. -/
  | declared
  /-- By a longer header. -/
  | implied
  /-- By a dotted key. -/
  | dotted
  deriving DecidableEq, Repr

/-- What stands under a key. -/
inductive Node where
  /-- A finished value. -/
  | value (json : Json)
  /-- A table. -/
  | table (standing : Standing) (members : List (String × Node))
  /-- A list of tables: the finished ones, and the members of the last. -/
  | tables (finished : List Json) (members : List (String × Node))
  deriving Repr

/-- The members of a table in the making. -/
abbrev Members := Table Node

mutual

/-- The value of a node. -/
def Node.toJson : Node → Json
  | .value json => json
  | .table _ members => .object (Node.membersToJson members)
  | .tables finished members => .array (finished ++ [.object (Node.membersToJson members)])

/-- The values of members. -/
def Node.membersToJson : List (String × Node) → List (String × Json)
  | [] => []
  | (key, node) :: rest => (key, node.toJson) :: Node.membersToJson rest

end

namespace Members

/-- Change the members of the table that header keys lead to; the tables that are
missing on the way are implied. -/
def changeAt (change : Members → Option Members) : List String → Members → Option Members
  | [], members => change members
  | key :: rest, members =>
      match Table.find? key members with
      | none => do
          return Table.insert key (.table .implied (← changeAt change rest [])) members
      | some (.table standing inner) => do
          return Table.insert key (.table standing (← changeAt change rest inner)) members
      | some (.tables finished inner) => do
          return Table.insert key (.tables finished (← changeAt change rest inner)) members
      | some (.value _) => none

/-- Change the members of the table that the front of a dotted key leads to.  Tables
that were declared are closed, and the last one must itself come from a dotted
key. -/
def changeDotted (change : Members → Option Members) : List String → Members → Option Members
  | [], members => change members
  | key :: rest, members =>
      match Table.find? key members with
      | none => do
          return Table.insert key (.table .dotted (← changeDotted change rest [])) members
      | some (.table standing inner) =>
          if standing = .declared ∨ (rest.isEmpty ∧ standing ≠ .dotted) then none
          else do
            return Table.insert key (.table standing (← changeDotted change rest inner)) members
      | some (.tables finished inner) =>
          if rest.isEmpty then none
          else do
            return Table.insert key (.tables finished (← changeDotted change rest inner)) members
      | some (.value _) => none

/-- Declare the table under a key. -/
def declare (key : String) (members : Members) : Option Members :=
  match Table.find? key members with
  | none => some (Table.insert key (.table .declared []) members)
  | some (.table .implied inner) => some (Table.insert key (.table .declared inner) members)
  | some _ => none

/-- Begin one more table of the list under a key. -/
def appendTable (key : String) (members : Members) : Option Members :=
  match Table.find? key members with
  | none => some (Table.insert key (.tables [] []) members)
  | some (.tables finished inner) =>
      some (Table.insert key (.tables (finished ++ [.object (Node.membersToJson inner)]) [])
        members)
  | some _ => none

/-- Write a value under a key that is still free. -/
def write (key : String) (value : Json) (members : Members) : Option Members :=
  if Table.has key members then none else some (Table.insert key (.value value) members)

/-- Write a value under a dotted key. -/
def assign (keys : List String) (value : Json) (members : Members) : Option Members := do
  changeDotted (write (← keys.getLast?) value) keys.dropLast members

end Members

end Attest.Config.Toml
