import Attest.Failure
import Attest.Key

/-!
# Text forms of keys

A text form recognises texts and decodes those it recognises.  A registry tries
its forms in order and takes the first that recognises the text and decodes it;
when there is none, the failure does not depend on the text.
-/

namespace Attest.Key

/-- A way in which keys are written as text. -/
structure TextForm where
  name : String
  /-- Whether a text may be of this form. -/
  recognises : String → Bool
  /-- Decode a text of this form. -/
  decode : String → Outcome KeyMaterial

/-- Text forms in the order in which they are tried. -/
structure Registry where
  forms : List TextForm

namespace Registry

/-- The registry without forms. -/
def empty : Registry := ⟨[]⟩

/-- Add a form, to be tried after all others.  A form may be added again and is then tried
again. -/
def register (registry : Registry) (form : TextForm) : Registry :=
  ⟨registry.forms ++ [form]⟩

/-- The failure of a text that no form decodes. -/
def undecodable : Failure :=
  .parse "No parser could decode the supplied key material"

/-- What a form makes of a text it is tried on: nothing, when it does not
recognise the text or cannot decode it. -/
def attempt? (text : String) (form : TextForm) : Option KeyMaterial :=
  if form.recognises text then (form.decode text).toOption else none

/-- Decode a text by the first form that succeeds. -/
def decode (registry : Registry) (text : String) : Outcome KeyMaterial :=
  match registry.forms.findSome? (attempt? text) with
  | some material => .ok material
  | none => .error undecodable

end Registry

end Attest.Key
