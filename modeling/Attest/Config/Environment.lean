import Attest.Json
import Attest.Text.Blank
import Attest.Text.Number

/-!
# Settings in the environment

A variable sets an entry of the configuration when its name starts with a given word
and two underscores, whatever the case of the ASCII letters.  The rest of its name in
lower case, with dots for double underscores, is the key.  Its value is a Boolean, an integer or a double
if it spells one, else a text.
-/

namespace Attest.Config

/-- The variables of an environment. -/
abbrev Environment := List (String × String)

namespace Environment

/-- The two underscores between the parts of a name. -/
def separator : List Char := ['_', '_']

/-- Put a dot for each pair of underscores. -/
def dotted : List Char → List Char
  | '_' :: '_' :: rest => '.' :: dotted rest
  | c :: rest => c :: dotted rest
  | [] => []

/-- The key that the variable of a name sets. -/
def key? (word name : String) : Option String :=
  let lead := word.toList.map Char.toLower ++ separator
  (lead.isPrefixOf? (name.toList.map Char.toLower)).map fun rest => String.ofList (dotted rest)

/-- The value that a text spells. -/
def valueOf (text : String) : Json :=
  let chars := text.toList
  let word := String.ofList (chars.map Char.toLower)
  if word = "true" then .bool true
  else if word = "false" then .bool false
  else
    match Text.int64? 10 chars with
    | some i => .int i
    | none =>
        match Text.double? chars with
        | some x => .float x
        | none => .string text

/-- The entries that the variables set. -/
def entries (environment : Environment) (word : String) : List (String × Json) :=
  environment.filterMap fun (name, text) => (key? word name).map fun key => (key, valueOf text)

end Environment

end Attest.Config
