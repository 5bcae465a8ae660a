import Attest.Config.File
import Attest.Key.PublicKeyEntry
import Attest.Time

/-!
# Settings

What is set about issuing tokens, about checking them, and which public keys are put
at hand.  Every part has defaults.  Settings that are loaded are also checked: a
lifetime is between a minute and a year, a tolerated skew at most a day, and every
public key has a text or a path.
-/

namespace Attest

namespace Settings

/-- Settings for issuing tokens. -/
structure Issuing where
  /-- The name of the signing key in the vault or in the configuration. -/
  keyName : String := ""
  /-- The identifier that issued tokens name as their key. -/
  keyId : String := ""
  /-- The lifetime of issued tokens in minutes. -/
  lifetimeMinutes : Int := 5
  deriving DecidableEq, Repr, Inhabited

/-- Settings for checking tokens. -/
structure Checking where
  /-- The tolerated skew of clocks in seconds. -/
  skewSeconds : Int := 0
  /-- The only key that tokens are verified with, whatever key they name. -/
  pinnedKeyId : Option String := none
  deriving DecidableEq, Repr, Inhabited

end Settings

/-- All settings. -/
structure Settings where
  issuing : Settings.Issuing := {}
  checking : Settings.Checking := {}
  publicKeys : List Key.PublicKeyEntry := []
  deriving DecidableEq, Repr, Inhabited

namespace Settings

/-- Why there are no settings. -/
inductive Fault where
  /-- Nothing stands at the path. -/
  | fileNotFound (path : String)
  /-- The name of the file does not announce a known format. -/
  | unsupportedFormat
  /-- The file or a value in it cannot be read. -/
  | unreadable (message : String)
  /-- A value makes no sense. -/
  | invalid (message : String)
  deriving DecidableEq, Repr

namespace Fault

/-- The name of the kind of a fault. -/
def kind : Fault → String
  | .fileNotFound _ => "FileNotFound"
  | .unsupportedFormat => "UnsupportedFormat"
  | .unreadable _ => "ParseError"
  | .invalid _ => "Invalid"

/-- The text of a fault. -/
def text : Fault → String
  | .fileNotFound path => "Settings file not found: " ++ path
  | .unsupportedFormat =>
      "Unsupported settings file format. Use .toml, .yaml, .yml, or .json"
  | .unreadable message => "Failed to parse settings: " ++ message
  | .invalid message => "Invalid settings: " ++ message

end Fault

/-! ## Durations -/

/-- The lifetime of issued tokens. -/
def Issuing.lifetime (issuing : Issuing) : Except Fault Duration :=
  match Duration.ofMinutes? issuing.lifetimeMinutes with
  | some lifetime => .ok lifetime
  | none =>
      .error (.invalid ("sts.token_expiration_minutes " ++ toString issuing.lifetimeMinutes ++
        " is out of range"))

/-- The tolerated skew. -/
def Checking.skew (checking : Checking) : Except Fault Duration :=
  match Duration.ofSeconds? checking.skewSeconds with
  | some skew => .ok skew
  | none =>
      .error (.invalid ("validation.clock_skew_seconds " ++ toString checking.skewSeconds ++
        " is out of range"))

/-! ## Reading and writing -/

open Json.Record (Convention withDefault optional listOf present)

/-- The fields of the settings for issuing. -/
def Issuing.fields : List String :=
  ["private_key_alias", "public_key_id", "token_expiration_minutes"]

/-- Read the settings for issuing. -/
def Issuing.read? (convention : Convention) (document : Json) : Option Issuing := do
  let members ← convention.members? fields document
  return {
    keyName := ← withDefault "" "private_key_alias" convention.text? members
    keyId := ← withDefault "" "public_key_id" convention.text? members
    lifetimeMinutes := ← withDefault 5 "token_expiration_minutes" convention.int? members }

/-- Write the settings for issuing. -/
def Issuing.toJson (issuing : Issuing) : Json :=
  .object [("private_key_alias", .string issuing.keyName), ("public_key_id", .string issuing.keyId),
    ("token_expiration_minutes", .int issuing.lifetimeMinutes)]

/-- The fields of the settings for checking. -/
def Checking.fields : List String :=
  ["clock_skew_seconds", "verification_key_id"]

/-- Read the settings for checking. -/
def Checking.read? (convention : Convention) (document : Json) : Option Checking := do
  let members ← convention.members? fields document
  return {
    skewSeconds := ← withDefault 0 "clock_skew_seconds" convention.int? members
    pinnedKeyId := ← optional "verification_key_id" convention.text? members }

/-- Write the settings for checking. -/
def Checking.toJson (checking : Checking) : Json :=
  .object (("clock_skew_seconds", .int checking.skewSeconds) ::
    present "verification_key_id" Json.string checking.pinnedKeyId)

/-- The fields of all settings. -/
def fields : List String :=
  ["sts", "validation", "public_keys"]

/-- Read settings under a convention. -/
def read? (convention : Convention) (document : Json) : Option Settings := do
  let members ← convention.members? fields document
  return {
    issuing := ← withDefault {} "sts" (Issuing.read? convention) members
    checking := ← withDefault {} "validation" (Checking.read? convention) members
    publicKeys := ← withDefault [] "public_keys"
      (listOf (Key.PublicKeyEntry.read? convention)) members }

/-- Read settings from JSON. -/
def ofJson? (document : Json) : Option Settings :=
  read? Json.Record.strict document

/-- What is wanted of the text of settings. -/
def outline : Json.Outline :=
  .record [("sts", .ofFields Issuing.fields), ("validation", .ofFields Checking.fields),
    ("public_keys", .list Key.PublicKeyEntry.outline)]

/-- Read settings from a text. -/
def ofText? (text : String) : Option Settings :=
  (Json.readOutlined outline text).bind ofJson?

/-- Write settings. -/
def toJson (settings : Settings) : Json :=
  .object [("sts", settings.issuing.toJson), ("validation", settings.checking.toJson),
    ("public_keys", .array (settings.publicKeys.map Key.PublicKeyEntry.toJson))]

/-! ## Checking -/

/-- The longest lifetime in minutes: a year. -/
def greatestLifetime : Int := 365 * 24 * 60

/-- The greatest skew in seconds: a day. -/
def greatestSkew : Int := 24 * 60 * 60

/-- The first thing that makes no sense in settings. -/
def objection? (settings : Settings) : Option String :=
  if settings.issuing.lifetimeMinutes ≤ 0 then
    some "sts.token_expiration_minutes must be positive"
  else if greatestLifetime < settings.issuing.lifetimeMinutes then
    some ("sts.token_expiration_minutes must not exceed " ++ toString greatestLifetime)
  else if settings.checking.skewSeconds < 0 then
    some "validation.clock_skew_seconds must not be negative"
  else if greatestSkew < settings.checking.skewSeconds then
    some ("validation.clock_skew_seconds must not exceed " ++ toString greatestSkew)
  else
    (settings.publicKeys.find? fun entry => entry.value.isNone && entry.path.isNone).map
      fun entry => "public key '" ++ entry.id ++ "' needs a value or a path"

/-! ## Loading -/

/-- What is said about a file that is not read and about values that do not fit. -/
structure Words where
  unread : String
  unfit : Config → String

/-- The word that the names of environment variables start with. -/
def environmentWord : String := "DATASPACE_TRUST"

/-- The configuration that settings are taken from. -/
def configure (words : Words) (files : Files) (path : String) (environment : Config.Environment)
    (word : String) : Except Fault Config :=
  if !files.has path then .error (.fileNotFound path)
  else
    match Config.Format.ofPath? path with
    | none => .error .unsupportedFormat
    | some format =>
        match Config.load? files format path environment word with
        | some config => .ok config
        | none => .error (.unreadable words.unread)

/-- The settings of a configuration, checked. -/
def ofConfig (words : Words) (config : Config) : Except Fault Settings :=
  match read? Config.lenient (.object config.root) with
  | none => .error (.unreadable (words.unfit config))
  | some settings =>
      match settings.objection? with
      | some message => .error (.invalid message)
      | none => .ok settings

/-- The settings of a file with the environment over it. -/
def load (words : Words) (files : Files) (path : String) (environment : Config.Environment)
    (word : String) : Except Fault Settings := do
  ofConfig words (← configure words files path environment word)

end Settings

end Attest
