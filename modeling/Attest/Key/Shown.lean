import Attest.Key
import Attest.Text.Shown

/-!
# Shown keys

Private keys and secrets are shown without what is in them.  Public keys have no
shown form.
-/

namespace Attest

/-- How the text of a key is shown. -/
def Key.shownText : String :=
  Text.shownWrapper "EncodedKey" Text.redacted

/-- How a private key is shown: only its family. -/
def PrivateKey.shown (key : PrivateKey) : String :=
  Text.shownRecord "PrivateKey"
    [("family", Text.quoted key.family.name), ("material", Text.quoted Text.redacted)]

/-- How private and symmetric material is shown. -/
def KeyMaterial.shown? : KeyMaterial → Option String
  | .privateKey key => some (Text.shownWrapper "Private" key.shown)
  | .publicKey _ => none
  | .symmetric _ =>
      some (Text.shownWrapper "Symmetric" (Text.shownWrapper "SymmetricKey" Text.redacted))

end Attest
