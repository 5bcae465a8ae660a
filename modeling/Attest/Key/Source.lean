import Attest.Did
import Attest.Files
import Attest.Vault

/-!
# Sources of keys

A source finds the text of a key by its identifier and does not look into it.
Keys are found in a vault, in a configuration, in the files of one directory or in
the documents of decentralised identifiers.
-/

namespace Attest.Key

/-- A way from an identifier to the text of a key. -/
abbrev Source := String → Outcome String

/-- A configuration: a text for some names. -/
abbrev Configuration := String → Option String

namespace Source

/-- The failure of a vault without the secret. -/
def notInVault (name : String) : Failure :=
  .resolution ("No secret found in vault for alias '" ++ name ++ "'")

/-- The secrets of a vault. -/
def ofVault (vault : Vault) : Source := fun name =>
  match vault.secret? name with
  | some secret => .ok secret
  | none => .error (notInVault name)

/-- The failure of a configuration without the name. -/
def notInConfiguration (name : String) : Failure :=
  .resolution ("No config entry for key '" ++ name ++ "'")

/-- The texts of a configuration. -/
def ofConfiguration (configuration : Configuration) : Source := fun name =>
  match configuration name with
  | some text => .ok text
  | none => .error (notInConfiguration name)

/-- Whether an identifier can name a file: it is one ordinary part of a path. -/
def isFileName (id : String) : Bool :=
  !id.isEmpty && id != "." && id != ".." &&
    id.toList.all fun c => c != '/' && c != '\\' && c != '\x00'

/-- The failure of an identifier that cannot name a file. -/
def badFileName (id : String) : Failure :=
  .resolution ("Invalid key file name '" ++ id ++ "'")

/-- The failure of a file that cannot be read. -/
def unreadable (id : String) (fault : Files.Fault) : Failure :=
  .resolution ("Failed to read key file '" ++ id ++ "': " ++ fault.message)

/-- What is answered about the file of an identifier, by what was found there. -/
def answer (id : String) (found : Except Files.Fault Files.Entry) : Outcome String :=
  (Files.textOf found).mapError (unreadable id)

/-- The files of one directory, looked at by acting. -/
def ofDirectoryM {m : Type → Type} [Monad m]
    (access : String → m (Except Files.Fault Files.Entry)) (directory id : String) :
    m (Outcome String) :=
  if isFileName id then answer id <$> access (Files.within directory id)
  else pure (.error (badFileName id))

/-- The files of one directory. -/
def ofDirectory (files : Files) (directory : String) : Source := fun id =>
  (ofDirectoryM (m := Id) (fun path => pure (files path)) directory id).run

/-- The documents of decentralised identifiers. -/
def ofDocuments (resolver : Did.Resolver) : Source :=
  Did.keyAt resolver

/-- How a source over a vault is shown. -/
def shownVault : String :=
  Text.shownPartly "VaultKeySource" []

/-- How a source over a configuration is shown. -/
def shownConfiguration : String :=
  Text.shownPartly "ConfigKeySource" []

/-- How a source over a directory is shown. -/
def shownDirectory (directory : String) : String :=
  Text.shownRecord "FileKeySource" [("root", Text.quoted directory)]

/-- How a source over documents is shown. -/
def shownDocuments : String :=
  Text.shownPartly "DidKeySource" []

end Source

end Attest.Key
