import Attest.Key.Source
import Attest.Proofs.Files
import Attest.Proofs.Outcome

/-!
# Keys in a directory

Whoever sends a token chooses the identifier that a key is looked up by.  As the name of a file it
leads to one place only, one step below the directory: an identifier that could lead anywhere else
is refused before any file is read.
-/

namespace Attest.Key.Source

open Files (components within textOf)
open Files.Tree (AlikeAt placeOf)

variable {directory id other : String}

/-- An identifier is one ordinary part of a path. -/
structure Ordinary (id : String) : Prop extends Files.IsName id where
  noBackslash : '\\' ∉ id.toList
  noNul : '\x00' ∉ id.toList

theorem isFileName_iff : isFileName id = true ↔ Ordinary id := by
  have plain : (id.toList.all fun c => c != '/' && c != '\\' && c != '\x00') = true ↔
      '/' ∉ id.toList ∧ '\\' ∉ id.toList ∧ '\x00' ∉ id.toList := by
    simp only [List.all_eq_true, Bool.and_eq_true, bne_iff_ne, ne_eq]
    constructor
    · intro all
      exact ⟨fun inside => (all _ inside).1.1 rfl, fun inside => (all _ inside).1.2 rfl,
        fun inside => (all _ inside).2 rfl⟩
    · rintro ⟨slash, backslash, nul⟩ c inside
      exact ⟨⟨ne_of_mem_of_not_mem inside slash, ne_of_mem_of_not_mem inside backslash⟩,
        ne_of_mem_of_not_mem inside nul⟩
  rw [isFileName, Bool.and_eq_true, plain]
  simp only [Bool.and_eq_true, Bool.not_eq_true', bne_iff_ne, ne_eq]
  constructor
  · rintro ⟨⟨⟨nonempty, notHere⟩, notUp⟩, slash, backslash, nul⟩
    exact ⟨⟨by simpa using nonempty, notHere, notUp, slash⟩, backslash, nul⟩
  · rintro ⟨⟨nonempty, notHere, notUp, slash⟩, backslash, nul⟩
    exact ⟨⟨⟨by simpa using nonempty, notHere⟩, notUp⟩, slash, backslash, nul⟩

example : isFileName "signing.pem" = true ∧ isFileName "../secret" = false := by decide

/-! ## Looking a key up -/

theorem ofDirectory_of_ordinary (ordinary : Ordinary id) (files : Files) (directory : String) :
    ofDirectory files directory id = answer id (files (within directory id)) := by
  rw [ofDirectory, ofDirectoryM, if_pos (isFileName_iff.mpr ordinary)]
  rfl

theorem ofDirectory_of_not_ordinary (other : ¬Ordinary id) (files : Files) (directory : String) :
    ofDirectory files directory id = .error (badFileName id) := by
  rw [ofDirectory, ofDirectoryM, if_neg (mt isFileName_iff.mp other)]
  rfl

/-- A file that cannot be read is no fault of its name. -/
theorem answer_ne_badFileName (found : Except Files.Fault Files.Entry) :
    answer id found ≠ .error (badFileName id) := by
  intro same
  obtain ⟨fault, -, same⟩ := mapError_eq_error_iff.mp same
  -- The two messages differ in their first character already.
  have first := congrArg (fun text => text.toList.head?) (Failure.resolution.inj same)
  simp at first

theorem answer_eq_ok_iff {found : Except Files.Fault Files.Entry} {text : String} :
    answer id found = .ok text ↔
      ∃ content, found = .ok (.file content) ∧ Octets.toText? content = some text := by
  rw [answer, mapError_eq_ok_iff, Files.textOf_eq_ok_iff]

theorem ofDirectoryM_pure {m : Type → Type} [Monad m] [LawfulMonad m] (files : Files)
    (directory id : String) :
    ofDirectoryM (m := m) (fun path => pure (files path)) directory id =
      pure (ofDirectory files directory id) := by
  rw [ofDirectoryM]
  split
  · next named => rw [map_pure, ofDirectory_of_ordinary (isFileName_iff.mp named)]
  · next other => rw [ofDirectory_of_not_ordinary (mt isFileName_iff.mpr other)]

/-! ## Staying inside -/

/-- Where the file of an ordinary identifier is, and what its text depends on. -/
structure Reaches (directory id : String) : Prop where
  /-- One path is read, once. -/
  reads : ∀ (m : Type → Type) [Monad m] (access : String → m (Except Files.Fault Files.Entry)),
    ofDirectoryM access directory id = answer id <$> access (within directory id)
  /-- The path is that of the directory and then the identifier. -/
  parent : Files.parent? (within directory id) = some (components directory)
  fileName : Files.fileName? (within directory id) = some id
  /-- No other identifier has this path. -/
  distinct : ∀ other, Ordinary other →
    components (within directory other) = components (within directory id) → other = id
  /-- What stands at any other path makes no difference. -/
  alone : ∀ files other : Files, files (within directory id) = other (within directory id) →
    ofDirectory files directory id = ofDirectory other directory id
  /-- From wherever the directory is reached, a text that is found is that of the file one step
  below it. -/
  inside : ∀ (tree : Files.Tree) (place : List String) (text : String),
    ofDirectory (tree.seenFrom place) directory id = .ok text →
      ∃ content, tree.at? (placeOf place directory ++ [id]) = some (.file content) ∧
        Octets.toText? content = some text
  /-- The content of any other file makes no difference, under whatever paths it is known. -/
  unaffected : ∀ (tree other : Files.Tree) (place : List String),
    AlikeAt (placeOf place directory ++ [id]) tree other →
      ofDirectory (tree.seenFrom place) directory id = ofDirectory (other.seenFrom place) directory id

theorem components_eq (ordinary : Ordinary id) (directory : String) :
    components (within directory id) = components directory ++ [.name id] :=
  Files.components_within ordinary.toIsName directory

theorem reaches_of_ordinary (ordinary : Ordinary id) (directory : String) :
    Reaches directory id := by
  have below := fun place => Files.Tree.placeOf_within ordinary.toIsName place directory
  constructor
  case reads =>
    intro m _ access
    rw [ofDirectoryM, if_pos (isFileName_iff.mpr ordinary)]
  case parent => exact Files.parent?_of_components (components_eq ordinary directory)
  case fileName => exact Files.fileName?_of_components (components_eq ordinary directory)
  case distinct =>
    intro other ordinary' same
    rw [components_eq ordinary, components_eq ordinary'] at same
    cases List.append_cancel_left same
    rfl
  case alone =>
    intro files other same
    rw [ofDirectory_of_ordinary ordinary, ofDirectory_of_ordinary ordinary, same]
  case inside =>
    intro tree place text found
    rw [ofDirectory_of_ordinary ordinary, answer_eq_ok_iff] at found
    obtain ⟨content, stands, read⟩ := found
    refine ⟨content, ?_, read⟩
    rw [← below]
    exact Files.Tree.at?_of_follow stands
  case unaffected =>
    intro tree other place alike
    rw [← below] at alike
    have same : tree.seenFrom place (within directory id) =
        other.seenFrom place (within directory id) := Files.Tree.follow_eq_of_alikeAt alike
    rw [ofDirectory_of_ordinary ordinary, ofDirectory_of_ordinary ordinary, same]

/-- How identifiers of keys are kept inside a directory. -/
structure Confines (directory id : String) : Prop where
  /-- An identifier is accepted exactly when it is an ordinary part of a path. -/
  accepted_iff : isFileName id = true ↔ Ordinary id
  /-- Any other is refused without reading anything, and for its name. -/
  refused : ¬Ordinary id → ∀ (m : Type → Type) [Monad m]
    (access : String → m (Except Files.Fault Files.Entry)),
      ofDirectoryM access directory id =
        pure (.error (.resolution ("Invalid key file name '" ++ id ++ "'")))
  /-- An ordinary one is never refused for its name. -/
  refused_iff : ∀ files, ofDirectory files directory id =
      .error (.resolution ("Invalid key file name '" ++ id ++ "'")) ↔ ¬Ordinary id
  reaches : Ordinary id → Reaches directory id
  /-- Where reading does nothing but return, this is the lookup. -/
  pure_eq : ∀ (m : Type → Type) [Monad m] [LawfulMonad m] (files : Files),
    ofDirectoryM (m := m) (fun path => pure (files path)) directory id =
      pure (ofDirectory files directory id)

/-- No identifier of a key leads out of the directory of the keys. -/
theorem confines_ofDirectory (directory id : String) : Confines directory id := by
  constructor
  case accepted_iff => exact isFileName_iff
  case refused =>
    intro other m _ access
    rw [ofDirectoryM, if_neg (mt isFileName_iff.mp other)]
    rfl
  case refused_iff =>
    intro files
    constructor
    · intro refused ordinary
      rw [ofDirectory_of_ordinary ordinary] at refused
      exact answer_ne_badFileName _ refused
    · intro other
      exact ofDirectory_of_not_ordinary other files directory
  case reaches =>
    intro ordinary
    exact reaches_of_ordinary ordinary directory
  case pure_eq =>
    intro m _ _ files
    exact ofDirectoryM_pure files directory id

end Attest.Key.Source
