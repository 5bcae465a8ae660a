import Attest.Config
import Attest.Config.Environment
import Attest.Config.Toml
import Attest.Config.Yaml
import Attest.Files
import Attest.Json.Reader

/-!
# Settings files

The last part of the name of a settings file says which of three formats it has.  The
file is UTF-8, and what is ill-formed in it is replaced; a byte order mark at its
beginning does not count.  When there is no file of the name, one with the extension
of the format added is taken instead.
-/

namespace Attest.Config

/-- The formats of settings files. -/
inductive Format where
  | toml
  | yaml
  | json
  deriving DecidableEq, Repr

namespace Format

/-- The extensions of a format. -/
def extensions : Format → List String
  | .toml => ["toml"]
  | .yaml => ["yaml", "yml"]
  | .json => ["json"]

/-- Every format. -/
def all : List Format := [.toml, .yaml, .json]

/-- The format with the given extension. -/
def ofExtension? (extension : String) : Option Format :=
  all.find? fun format => format.extensions.contains extension

/-- The last part of a path, without the slashes after it. -/
def fileName? (path : String) : Option String :=
  let parts := (path.toList.splitOn '/').map String.ofList
  match (parts.filter fun part => !part.isEmpty && part != ".").getLast? with
  | some name => if name = ".." then none else some name
  | none => none

/-- The extension of a path: what follows the last dot of its name, unless the name
begins with that dot. -/
def extension? (path : String) : Option String := do
  let chars := (← fileName? path).toList.reverse
  let ending := chars.takeWhile fun c => c != '.'
  let rest := chars.drop (ending.length + 1)
  if rest.isEmpty then none else some (String.ofList ending.reverse)

/-- The format of the file at a path. -/
def ofPath? (path : String) : Option Format :=
  (extension? path).bind ofExtension?

/-- The root table of a document. -/
def parse? : Format → String → Option (Table Json)
  | .toml, text => Toml.parse? text
  | .yaml, text => Yaml.parse? text
  | .json, text => (Json.parse text).bind Json.object?

end Format

/-- A path without the slashes at its end. -/
def withoutSlash (path : String) : String :=
  String.ofList (path.toList.reverse.dropWhile fun c => c == '/').reverse

/-- The octets of the file at a path, if it is one. -/
def fileAt? (files : Files) (path : String) : Option Octets :=
  (files.octets path).toOption

/-- Where a settings file is looked for: at the path itself, then at the path with
an extension of the format added. -/
def candidates (format : Format) (path : String) : List String :=
  path :: format.extensions.map fun extension => withoutSlash path ++ "." ++ extension

/-- The octets of a settings file. -/
def octetsAt? (files : Files) (format : Format) (path : String) : Option Octets :=
  (candidates format path).findSome? (fileAt? files)

/-- Text without a byte order mark at its beginning. -/
def withoutMark : Octets → Octets
  | 0xEF :: 0xBB :: 0xBF :: rest => rest
  | octets => octets

/-- The entries of a settings file. -/
def entriesOf? (files : Files) (format : Format) (path : String) :
    Option (List (String × Json)) := do
  let octets ← octetsAt? files format path
  format.parse? (Octets.toTextLenient (withoutMark octets))

/-- The configuration of a settings file with the environment over it. -/
def load? (files : Files) (format : Format) (path : String) (environment : Environment)
    (word : String) : Option Config := do
  let entries ← entriesOf? files format path
  return (Config.empty.overlay entries).overlay (environment.entries word)

/-- The configuration of a JSON text. -/
def ofJsonText? (text : String) : Option Config :=
  (Format.json.parse? text).map Config.empty.overlay

end Attest.Config
