import Attest.Key.Armoured
import Attest.Key.Unarmoured
import Attest.Key.WebKey

/-!
# The standard registry

Armoured keys, JSON web keys and plain base64, tried in this order.  What is said about armour that
is not read never leaves a registry, so the standard one has no words for it.
-/

namespace Attest.Key

/-- The registry of the three standard forms, with the words for armour that is not read. -/
def Registry.worded (unread : String → String) : Registry :=
  ⟨[Armoured.form unread, WebKey.form, Unarmoured.form]⟩

/-- The standard registry. -/
def Registry.standard : Registry :=
  worded fun _ => ""

end Attest.Key
