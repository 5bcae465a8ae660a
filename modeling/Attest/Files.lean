import Attest.Octets

/-!
# Files

A view of files says for every path what stands there, or why nothing can be read
there.  Reading a text asks for a file whose octets are UTF-8.
-/

namespace Attest

namespace Files

/-- Why a file cannot be read. -/
inductive Fault where
  /-- Nothing stands at the path. -/
  | absent
  /-- The path leads through something that is not a directory. -/
  | throughFile
  /-- A directory stands at the path. -/
  | directory
  /-- The path or a part of it is too long. -/
  | tooLong
  /-- The path has a character that no path may have. -/
  | badPath
  /-- The octets of the file are not UTF-8. -/
  | notText
  /-- Another fault, with its text. -/
  | other (message : String)
  deriving DecidableEq, Repr

/-- The text of a fault. -/
def Fault.message : Fault → String
  | .absent => "No such file or directory (os error 2)"
  | .throughFile => "Not a directory (os error 20)"
  | .directory => "Is a directory (os error 21)"
  | .tooLong => "File name too long (os error 36)"
  | .badPath => "file name contained an unexpected NUL byte"
  | .notText => "stream did not contain valid UTF-8"
  | .other message => message

/-- What can stand at a path. -/
inductive Entry where
  | file (content : Octets)
  | directory
  deriving DecidableEq, Repr

end Files

/-- What stands at each path. -/
abbrev Files := String → Except Files.Fault Files.Entry

namespace Files

/-- No files at all. -/
def nothing : Files := fun _ => .error .absent

/-- Whether something stands at a path. -/
def has (files : Files) (path : String) : Bool :=
  (files path).toBool

/-- The octets of a file, by what was found at its path. -/
def octetsOf (found : Except Fault Entry) : Except Fault Octets :=
  match found with
  | .ok (.file content) => .ok content
  | .ok .directory => .error .directory
  | .error fault => .error fault

/-- The text of a file, by what was found at its path. -/
def textOf (found : Except Fault Entry) : Except Fault String := do
  match Octets.toText? (← octetsOf found) with
  | some text => .ok text
  | none => .error .notText

/-- The octets of a file. -/
def octets (files : Files) (path : String) : Except Fault Octets :=
  octetsOf (files path)

/-- The text of a file. -/
def text (files : Files) (path : String) : Except Fault String :=
  textOf (files path)

/-- The path of a name in a directory; a name that starts at the root is a path already. -/
def within (directory name : String) : String :=
  if name.startsWith "/" then name
  else if directory.isEmpty then name
  else if directory.endsWith "/" then directory ++ name
  else directory ++ "/" ++ name

end Files

end Attest
