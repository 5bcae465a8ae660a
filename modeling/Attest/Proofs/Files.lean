import Attest.Files.Tree
import Attest.Proofs.Outcome
import Mathlib.Data.List.Basic

/-!
# Paths and places

A path stands for its components, and two texts with the same components are the same path.  In a
tree of files a path leads to a place, part by part.  The path of a name in a directory has the
components of the directory and then the name, and it leads from the place of the directory one
step down.  What is found there depends on nothing in a tree but the shape and the content of the
file at this place.
-/

namespace Attest.Files

variable {directory name : String}

/-! ## Components -/

/-- A component of a path. -/
inductive Component where
  /-- The root, which a path can start from. -/
  | root
  /-- A dot that a path starts from. -/
  | here
  | up
  | name (text : String)
  deriving DecidableEq

/-- What a part of a path stands for: empty parts and dots for nothing. -/
def Component.ofPart? (part : String) : Option Component :=
  if part = "" ∨ part = "." then none
  else if part = ".." then some .up
  else some (.name part)

/-- What the parts of a path start from: the root when nothing stands before its first slash. -/
def start : List String → List Component
  | [] => []
  | first :: rest =>
      if first = "" then if rest = [] then [] else [.root]
      else if first = "." then [.here]
      else []

/-- The components of a path.  Two texts with the same components are the same path. -/
def components (path : String) : List Component :=
  start (Tree.parts path) ++ (Tree.parts path).filterMap Component.ofPart?

/-- The name at the end of a path. -/
def fileName? (path : String) : Option String :=
  match (components path).getLast? with
  | some (.name text) => some text
  | _ => none

/-- The components of the path without its last one; there is none above the root. -/
def parent? (path : String) : Option (List Component) :=
  match (components path).getLast? with
  | none | some .root => none
  | some _ => some (components path).dropLast

section Components

variable {path : String} {before : List Component}

theorem fileName?_of_components (whole : components path = before ++ [.name name]) :
    fileName? path = some name := by
  rw [fileName?, whole, List.getLast?_concat]

theorem parent?_of_components (whole : components path = before ++ [.name name]) :
    parent? path = some before := by
  rw [parent?, whole, List.getLast?_concat, List.dropLast_concat]

end Components

/-- A text that is a part of a path by itself, and one by which the path goes down. -/
structure IsName (name : String) : Prop where
  nonempty : name ≠ ""
  notHere : name ≠ "."
  notUp : name ≠ ".."
  plain : '/' ∉ name.toList

theorem IsName.ofPart?_eq (named : IsName name) :
    Component.ofPart? name = some (.name name) := by
  rw [Component.ofPart?, if_neg (not_or.mpr ⟨named.nonempty, named.notHere⟩), if_neg named.notUp]

theorem parts_append (before after : String) :
    Tree.parts (before ++ "/" ++ after) = Tree.parts before ++ Tree.parts after := by
  have split : (before ++ "/" ++ after).toList.splitOn '/' =
      before.toList.splitOn '/' ++ after.toList.splitOn '/' := by
    rw [String.toList_append, String.toList_append, List.append_assoc]
    exact List.splitOn_append_cons_self _ _
  rw [Tree.parts, split, List.map_append]
  rfl

theorem parts_of_plain (plain : '/' ∉ name.toList) : Tree.parts name = [name] := by
  rw [Tree.parts, List.splitOn_eq_singleton plain, List.map_singleton, String.ofList_toList]

theorem parts_ne_nil (path : String) : Tree.parts path ≠ [] := by
  rw [Tree.parts, Ne, List.map_eq_nil_iff]
  exact List.splitOn_ne_nil '/' path.toList

theorem eq_empty_of_parts {path : String} (single : Tree.parts path = [""]) : path = "" := by
  have joined : ['/'].intercalate (path.toList.splitOn '/') = path.toList :=
    List.intercalate_splitOn '/'
  rw [Tree.parts] at single
  obtain ⟨part, split, empty⟩ := List.map_eq_singleton_iff.mp single
  rw [split, String.ofList_eq_empty_iff.mp empty] at joined
  exact String.toList_eq_nil_iff.mp joined.symm

theorem endsWith_slash_iff : directory.endsWith "/" = true ↔ ∃ before, directory = before ++ "/" := by
  rw [String.endsWith_eq_endsWith_toSlice, String.Slice.endsWith_string_iff, String.copy_toSlice]
  constructor
  · rintro ⟨before, whole⟩
    refine ⟨String.ofList before, String.toList_inj.mp ?_⟩
    rw [String.toList_append, String.toList_ofList, whole]
  · rintro ⟨before, rfl⟩
    exact ⟨before.toList, String.toList_append.symm⟩

/-- The parts of a name in a directory are those of the directory and then the name; a directory
may end with an empty part, or be nothing but an empty part, and the name then takes its place. -/
theorem exists_parts_within (plain : '/' ∉ name.toList) (directory : String) :
    ∃ leading, Tree.parts (within directory name) = leading ++ [name] ∧
      (Tree.parts directory = leading ++ [""] ∨
        Tree.parts directory = leading ∧ directory ≠ "") := by
  have relative : ¬name.startsWith "/" = true := by
    intro absolute
    obtain ⟨rest, whole⟩ := String.startsWith_string_iff.mp absolute
    refine plain ?_
    rw [← whole]
    exact List.mem_cons_self
  rw [within, if_neg relative]
  split
  · next empty =>
      rw [String.isEmpty_iff.mp empty]
      exact ⟨[], parts_of_plain plain, .inl rfl⟩
  · next nonempty =>
      split
      · next closed =>
          obtain ⟨before, rfl⟩ := endsWith_slash_iff.mp closed
          refine ⟨Tree.parts before, ?_, .inl ?_⟩
          · rw [parts_append, parts_of_plain plain]
          · exact (congrArg Tree.parts String.append_empty.symm).trans (parts_append before "")
      · refine ⟨Tree.parts directory, ?_, .inr ⟨rfl, ?_⟩⟩
        · rw [parts_append, parts_of_plain plain]
        · exact fun empty => nonempty (String.isEmpty_iff.mpr empty)

/-- A last part does not settle what a path starts from, unless only a slash stands before it. -/
theorem start_append_singleton {leading : List String} (nonempty : leading ≠ [])
    (last : String) :
    start (leading ++ [last]) = if leading = [""] then [.root] else start leading := by
  obtain ⟨first, rest, rfl⟩ := List.exists_cons_of_ne_nil nonempty
  by_cases empty : first = ""
  · by_cases single : rest = []
    · simp [start, empty, single]
    · simp [start, empty, single]
  · simp [start, empty]

/-- A name in a directory adds one component to those of the directory. -/
theorem components_within (named : IsName name) (directory : String) :
    components (within directory name) = components directory ++ [.name name] := by
  -- The name takes the place of the empty part after a closing slash, or comes after all parts.
  obtain ⟨leading, whole, closed | ⟨whole', nonempty⟩⟩ :=
    exists_parts_within named.plain directory
  · have starts : start (leading ++ [name]) = start (leading ++ [""]) := by
      rcases eq_or_ne leading [] with rfl | below
      · simp [start, named.nonempty, named.notHere]
      · rw [start_append_singleton below, start_append_singleton below]
    have empty : [""].filterMap Component.ofPart? = [] := rfl
    rw [components, components, whole, closed, starts, List.filterMap_append, List.filterMap_append,
      empty, List.append_nil, List.filterMap_cons_some named.ofPart?_eq, List.filterMap_nil,
      List.append_assoc]
  · have notEmpty : leading ≠ [""] := by
      rintro rfl
      exact nonempty (eq_empty_of_parts whole')
    have starts := start_append_singleton (whole' ▸ parts_ne_nil directory) name
    rw [if_neg notEmpty] at starts
    rw [components, components, whole, whole', starts, List.filterMap_append,
      List.filterMap_cons_some named.ofPart?_eq, List.filterMap_nil, List.append_assoc]

/-! ## Places in a tree -/

namespace Tree

variable {tree other : Tree} {place : List String} {entry : Entry}

/-- The place that a part of a path leads to from a place. -/
def descend (place : List String) (part : String) : List String :=
  if part.isEmpty || part == "." then place
  else if part == ".." then place.dropLast
  else place ++ [part]

/-- The place that a path leads to from a place. -/
def placeOf (place : List String) (path : String) : List String :=
  (parts path).foldl descend place

/-- The files of a tree as they are seen from a place. -/
def seenFrom (tree : Tree) (place : List String) : Files := fun path =>
  tree.follow place (parts path)

/-- Why a part of a path leads nowhere. -/
def blocked? (place : List String) (part : String) : Option Fault :=
  if part.isEmpty || part == "." then none
  else if part == ".." then if place.isEmpty then some .absent else none
  else if nameLimit < part.utf8ByteSize then some .tooLong
  else none

/-- Following a path, one part at a time: a directory is left for the place that the part leads
to. -/
theorem follow_cons (tree : Tree) (place : List String) (part : String) (rest : List String) :
    tree.follow place (part :: rest) =
      match tree.at? place with
      | none => .error .absent
      | some (.file _) => .error .throughFile
      | some .directory =>
          match blocked? place part with
          | some fault => .error fault
          | none => tree.follow (descend place part) rest := by
  rw [follow]
  rcases tree.at? place with _ | _ | _
  · rfl
  · rfl
  · simp only [blocked?, descend]
    split_ifs <;> rfl

/-- What is found at the end of a path stands at the place that it leads to. -/
theorem at?_of_follow {parts : List String} (found : tree.follow place parts = .ok entry) :
    tree.at? (parts.foldl descend place) = some entry := by
  induction parts generalizing place with
  | nil =>
      rw [follow] at found
      split at found
      · next here =>
          cases found
          exact here
      · cases found
  | cons part rest ih =>
      rw [follow_cons] at found
      split at found
      · cases found
      · cases found
      · split at found
        · cases found
        · exact ih found

/-- The same stands at a place in two trees, or files with their own content do. -/
inductive SameKind (tree other : Tree) (place : List String) : Prop
  | nothing (here : tree.at? place = none) (there : other.at? place = none)
  | directories (here : tree.at? place = some .directory)
      (there : other.at? place = some .directory)
  | files {content otherContent : Octets} (here : tree.at? place = some (.file content))
      (there : other.at? place = some (.file otherContent))

/-- Two trees differ in nothing but the content of files, and not at the given place. -/
structure AlikeAt (place : List String) (tree other : Tree) : Prop where
  here : tree.at? place = other.at? place
  elsewhere : ∀ elsewhere, SameKind tree other elsewhere

theorem follow_eq_of_alikeAt {parts : List String}
    (alike : AlikeAt (parts.foldl descend place) tree other) :
    tree.follow place parts = other.follow place parts := by
  induction parts generalizing place with
  | nil =>
      have here : tree.at? place = other.at? place := alike.here
      rw [follow, follow, here]
  | cons part rest ih =>
      rw [follow_cons, follow_cons]
      rcases alike.elsewhere place with ⟨here, there⟩ | ⟨here, there⟩ | ⟨here, there⟩
      · rw [here, there]
      · rw [here, there, ih alike]
      · rw [here, there]

/-- The path of a name in a directory leads from the place of the directory one step down. -/
theorem placeOf_within (named : IsName name) (place : List String) (directory : String) :
    placeOf place (within directory name) = placeOf place directory ++ [name] := by
  have down : ∀ place, descend place name = place ++ [name] := by
    intro place
    simp [descend, named.nonempty, named.notHere, named.notUp]
  obtain ⟨leading, whole, closed | ⟨whole', -⟩⟩ := exists_parts_within named.plain directory
  · have stays : ∀ place, descend place "" = place := fun _ => rfl
    rw [placeOf, placeOf, whole, closed, List.foldl_concat, List.foldl_concat, down, stays]
  · rw [placeOf, placeOf, whole, whole', List.foldl_concat, down]

end Tree

/-! ## Reading -/

theorem octetsOf_eq_ok_iff {found : Except Fault Entry} {content : Octets} :
    octetsOf found = .ok content ↔ found = .ok (.file content) := by
  rcases found with fault | inside | _ <;> simp [octetsOf]

theorem textOf_eq_ok_iff {found : Except Fault Entry} {text : String} :
    textOf found = .ok text ↔
      ∃ content, found = .ok (.file content) ∧ Octets.toText? content = some text := by
  simp only [textOf, bind_eq_ok_iff, octetsOf_eq_ok_iff]
  refine exists_congr fun content => and_congr_right fun _ => ?_
  cases Octets.toText? content <;> simp

end Attest.Files
