import Attest.Files
import Attest.Table

/-!
# Trees of files

A tree of files is a list of paths with what stands there; the directories on the
way to an entry are there too.  A path is followed part by part: an empty part and
a dot stay, two dots go up, and any other part goes down.
-/

namespace Attest.Files

/-- Files by the parts of their paths. -/
structure Tree where
  entries : List (List String × Entry)

namespace Tree

/-- The parts of a path between its slashes. -/
def parts (path : String) : List String :=
  (path.toList.splitOn '/').map String.ofList

/-- The parts of a path that go down. -/
def names (path : String) : List String :=
  (parts path).filter fun part => !part.isEmpty && part != "."

/-- The tree with the given entries. -/
def ofEntries (entries : List (String × Entry)) : Tree :=
  ⟨entries.map fun (path, entry) => (names path, entry)⟩

/-- What stands at a place. -/
def at? (tree : Tree) (place : List String) : Option Entry :=
  match tree.entries.find? fun entry => entry.1 == place with
  | some (_, entry) => some entry
  | none =>
      if place.isEmpty || tree.entries.any fun entry => place.isPrefixOf entry.1 then
        some .directory
      else none

/-- The longest name, in octets. -/
def nameLimit : Nat := 255

/-- The longest path, in octets. -/
def pathLimit : Nat := 4095

/-- Follow the parts of a path from a place. -/
def follow (tree : Tree) (place : List String) : List String → Except Fault Entry
  | [] =>
      match tree.at? place with
      | some entry => .ok entry
      | none => .error .absent
  | part :: rest =>
      match tree.at? place with
      | none => .error .absent
      | some (.file _) => .error .throughFile
      | some .directory =>
          if part.isEmpty || part == "." then tree.follow place rest
          else if part == ".." then
            if place.isEmpty then .error .absent else tree.follow place.dropLast rest
          else if nameLimit < part.utf8ByteSize then .error .tooLong
          else tree.follow (place ++ [part]) rest

/-- The files of a tree. -/
def files (tree : Tree) : Files := fun path =>
  if path.isEmpty || path.startsWith "/" then .error .absent
  else if path.contains '\x00' then .error .badPath
  else if pathLimit < path.utf8ByteSize then .error .tooLong
  else tree.follow [] (parts path)

end Tree

end Attest.Files
