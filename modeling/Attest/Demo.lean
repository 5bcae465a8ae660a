import Attest.Key.Armoured
import Attest.Key.LocalService
import Attest.Key.Standard
import Attest.Settings
import Attest.Token.Issuance
import Attest.Token.Rule.Standard
import Attest.Token.RuleBook
import Attest.Token.Validation

/-!
# A self-issued token

A demonstration of the whole: a signing key is put into a vault, a token is issued
with it under the settings, and the token is validated again with the public keys at
hand and the standard rules.  Everything that the run takes from outside is given.
-/

namespace Attest.Demo

/-- Who issues the token, about itself. -/
def subject : String := "did:web:demo.example"

/-- Whom the token is for. -/
def audience : String := "did:web:provider.example"

/-- The context that the token is validated in. -/
def context : String := "dsp-request"

/-- What a run takes from outside. -/
structure Surroundings where
  files : Files
  environment : Config.Environment
  /-- What is said about settings that cannot be read. -/
  words : Settings.Words
  /-- The signing key. -/
  key : PrivateKey
  /-- What is said about a signing key that has no armoured form. -/
  unwritten : PrivateKey → String
  /-- Random octets for the identifier of the token. -/
  random : Octets
  /-- How tokens are signed and verified. -/
  scheme : Token.SignatureScheme
  /-- When the token is issued. -/
  issued : Instant
  /-- When the token is validated. -/
  checked : Instant

/-- The settings without a settings file. -/
def standardSettings : Settings :=
  { issuing := { keyName := "signing-key", keyId := subject ++ "#key-1" } }

/-- The settings, and the configuration that signing keys fall back to. -/
def settingsOf (surroundings : Surroundings) :
    Option String → Except String (Settings × Key.Configuration)
  | none => .ok (standardSettings, fun _ => none)
  | some path => do
      let config ← (Settings.configure surroundings.words surroundings.files path
        surroundings.environment Settings.environmentWord).mapError
          fun _ => "Failed to load settings from " ++ path
      let settings ← (Settings.ofConfig surroundings.words config).mapError Settings.Fault.text
      return (settings, config.text?)

/-- The paths where a run with a settings file looks for it. -/
def settingsPaths : Option String → List String
  | none => []
  | some path => path :: (Config.Format.all.flatMap fun format => Config.candidates format path)

/-- The paths of the public keys that settings put at hand. -/
def keyPaths (settings : Settings) : List String :=
  settings.publicKeys.filterMap Key.PublicKeyEntry.path

/-- The claims that the issuer makes. -/
def claims : List (String × Json) :=
  [("iss", .string subject), ("sub", .string subject)]

/-- The rules of the context. -/
def rules (skew : Duration) : Token.RuleBook :=
  (((Token.RuleBook.empty.add context (Token.Rule.expiration skew)).add context
    (Token.Rule.notBefore skew false)).add context (Token.Rule.audience audience)).add context
      Token.Rule.issuerEqualsSubject

/-- The resolver of verification keys: the keys at hand, or one of them for all. -/
def resolverOf (settings : Settings) (service : Key.LocalService) : Key.PublicResolver :=
  match settings.checking.pinnedKeyId with
  | some id => Key.PublicResolver.pinned id service.resolver
  | none => service.resolver

/-- The keys at hand: those of the settings, then the public half of the signing
key. -/
def publicKeysOf (surroundings : Surroundings) (settings : Settings) (vault : Vault) :
    Outcome Key.LocalService := do
  let (loaded, service) := Key.LocalService.preload surroundings.files
    { registry := Key.Registry.standard, vault } settings.publicKeys
  loaded
  service.add settings.issuing.keyId (Key.Armoured.writePublic surroundings.key.publicKey)

/-- Issue a token and validate it. -/
def exchange (surroundings : Surroundings) (settings : Settings)
    (configuration : Key.Configuration) (privateText : String) (lifetime skew : Duration) :
    Outcome Token.Claims := do
  let vault := Vault.empty.store settings.issuing.keyName privateText
  let service ← publicKeysOf surroundings settings vault
  let privateKeys := Key.PrivateResolver.ofSource (Key.Source.ofVault vault) configuration
    Key.Registry.standard
  let issuer : Token.Issuer := { lifetime, scheme := surroundings.scheme }
  let token ← issuer.issue
    { signingKey := privateKeys settings.issuing.keyName
      keyId := some settings.issuing.keyId
      now := surroundings.issued
      random := surroundings.random } claims audience
  let validator : Token.Validator := { scheme := surroundings.scheme }
  validator.validate (resolverOf settings service) ((rules skew).rules context)
    { now := surroundings.checked } token.text

/-- A run with its settings and its configuration at hand. -/
def runWith (surroundings : Surroundings) (settings : Settings)
    (configuration : Key.Configuration) : Except String Token.Claims :=
  match Key.Armoured.writePrivate? surroundings.key with
  | none =>
      .error ("Failed to encode signing key: " ++ surroundings.unwritten surroundings.key)
  | some privateText => do
      let lifetime ← settings.issuing.lifetime.mapError Settings.Fault.text
      let skew ← settings.checking.skew.mapError Settings.Fault.text
      (exchange surroundings settings configuration privateText lifetime skew).mapError Failure.text

/-- The whole run: the claims of the validated token, or why it failed. -/
def run (surroundings : Surroundings) (path : Option String) : Except String Token.Claims := do
  let (settings, configuration) ← settingsOf surroundings path
  runWith surroundings settings configuration

end Attest.Demo
