import Attest.Demo
import Attest.Json.Pretty
import Std.Time.DateTime.Timestamp

/-!
# The command line

Runs the demonstration with the settings file that the first argument names, or
without one, and prints the claims of the validated token.  This is the only module
that touches the outside: files, environment, clock and random octets.
-/

namespace Attest.CommandLine

/-- What stands at a path. -/
def lookAt (path : String) : IO (Except Files.Fault Files.Entry) := do
  try
    return .ok (.file (← IO.FS.readBinFile path).data.toList)
  catch
    | .noFileOrDirectory .. => return .error .absent
    | .inappropriateType _ 21 _ => return .ok .directory
    | .inappropriateType _ 20 _ => return .error .throughFile
    | error => return .error (.other (toString error))

/-- The files at some paths; nothing stands at any other. -/
def snapshot (paths : List String) : IO Files := do
  let mut seen : List (String × Except Files.Fault Files.Entry) := []
  for path in paths do
    seen := (path, ← lookAt path) :: seen
  let entries := seen
  return fun path => (Table.find? path entries).getD (.error .absent)

/-- The variables of the environment. -/
def environment : IO Config.Environment := do
  let octets ← try IO.FS.readBinFile "/proc/self/environ" catch _ => pure ByteArray.empty
  let found := (octets.data.toList.splitOn 0).filterMap fun entry => do
    let (name, value) ← Text.cutAt? ['='] (← Octets.toText? entry).toList
    return (String.ofList name, String.ofList value)
  return found

/-- The present instant. -/
def now : IO Instant := do
  let milliseconds := (← Std.Time.Timestamp.now).toMillisecondsSinceUnixEpoch.val
  return (Clock.atMilliseconds milliseconds).now

/-- Random octets. -/
def randomOctets (count : Nat) : IO Octets := do
  return (← IO.getRandomBytes count.toUSize).data.toList

/-- A new signing key. -/
def newKey : IO P256.PrivateKey := do
  let number := Octets.toNat (← randomOctets 40)
  match P256.PrivateKey.ofScalar? (number % (P256.order - 1) + 1) with
  | some key => return key
  | none => throw (IO.userError "no signing key")

/-- Run the demonstration. -/
def run (path : Option String) : IO (Except String Token.Claims) := do
  let settingsFiles ← snapshot (Demo.settingsPaths path)
  let issued ← now
  let surroundings : Demo.Surroundings :=
    { files := settingsFiles
      environment := ← environment
      words := ⟨"the file " ++ path.getD "" ++ " is malformed",
        fun _ => "a value is missing or of the wrong type"⟩
      key := .p256 (← newKey)
      unwritten := fun _ => "the key has no armoured form"
      random := ← randomOctets 16
      scheme := Token.SignatureScheme.standard
        ⟨fun _ => "the key has no bare form", fun _ _ => "the key yields no signature"⟩
        (← randomOctets 32)
      issued
      checked := ← now }
  match Demo.settingsOf surroundings path with
  | .error message => return .error message
  | .ok (settings, _) =>
      let files ← snapshot (Demo.settingsPaths path ++ Demo.keyPaths settings)
      return Demo.run { surroundings with files } path

end Attest.CommandLine

/-- Print the claims, or why there are none. -/
def main (arguments : List String) : IO UInt32 := do
  match ← Attest.CommandLine.run arguments.head? with
  | .ok claims =>
      IO.println (Attest.Json.pretty claims.toJson)
      return 0
  | .error message =>
      IO.eprintln ("Error: " ++ message)
      return 1
