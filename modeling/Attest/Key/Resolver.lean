import Attest.Key.Source
import Attest.Key.TextForm

/-!
# Resolvers of keys

A resolver takes the text of a key from a source and decodes it with a registry.
For a private key the configuration stands in when the source fails, and only
then: once there is a text, it is the only one that is tried.  A public key has no
such fallback, and every failure names the key that was asked for.  A pinned
resolver asks for one key whatever it is asked for.
-/

namespace Attest.Key

/-- A way from an identifier to a public key. -/
abbrev PublicResolver := String → Outcome PublicKey

/-- A way from an identifier to a private key. -/
abbrev PrivateResolver := String → Outcome PrivateKey

/-- The failure of material that is not a private key. -/
def notPrivate : Failure :=
  .typeMismatch "The specified resource did not contain private key material."

/-- The failure of material that is not a public key. -/
def notPublic : Failure :=
  .typeMismatch "The specified resource did not contain public key material."

namespace Registry

/-- Decode a text that has to be a private key. -/
def decodePrivate (registry : Registry) (text : String) : Outcome PrivateKey := do
  match (← registry.decode text).private? with
  | some key => .ok key
  | none => .error notPrivate

/-- Decode a text that has to be a public key. -/
def decodePublic (registry : Registry) (text : String) : Outcome PublicKey := do
  match (← registry.decode text).public? with
  | some key => .ok key
  | none => .error notPublic

/-- How a registry is shown. -/
def shown (registry : Registry) : String :=
  Text.shownRecord "KeyParserRegistry"
    [("parsers", Text.quotedList (registry.forms.map TextForm.name))]

end Registry

namespace PrivateResolver

/-- The failure of a key that neither the source nor the configuration has. -/
def notFound (id : String) : Failure :=
  .resolution ("Private key with ID '" ++ id ++ "' not found in Config")

/-- The text that the source finds, else that of the configuration. -/
def textOf (source : Source) (configuration : Configuration) (id : String) : Outcome String :=
  match source id with
  | .ok text => .ok text
  | .error _ =>
      match configuration id with
      | some text => .ok text
      | none => .error (notFound id)

/-- The resolver over a source with a configuration to fall back to. -/
def ofSource (source : Source) (configuration : Configuration) (registry : Registry) :
    PrivateResolver := fun id => do
  registry.decodePrivate (← textOf source configuration id)

/-- How a resolver with a registry is shown. -/
def shown (registry : Registry) : String :=
  Text.shownPartly "PrivateKeyResolver" [("registry", registry.shown)]

/-- How the supply of the key of one name is shown. -/
def shownSupply (registry : Registry) (name : String) : String :=
  Text.shownRecord "ResolverKeySupplier"
    [("resolver", shown registry), ("alias", Text.quoted name)]

end PrivateResolver

namespace PublicResolver

/-- The message about a key that cannot be resolved. -/
def unresolved (id : String) : String :=
  "No public key could be resolved for key-ID '" ++ id ++ "'"

/-- The resolver over a source. -/
def ofSource (source : Source) (registry : Registry) : PublicResolver := fun id =>
  ((source id).bind registry.decodePublic).mapError fun failure =>
    failure.withContext fun cause => unresolved id ++ ": " ++ cause

/-- The resolver that asks another for one key only. -/
def pinned (id : String) (inner : PublicResolver) : PublicResolver := fun _ =>
  inner id

@[simp]
theorem pinned_apply (id asked : String) (inner : PublicResolver) :
    pinned id inner asked = inner id :=
  rfl

/-- How a resolver over a source is shown. -/
def shown (registry : Registry) : String :=
  Text.shownPartly "SourcePublicKeyResolver" [("registry", registry.shown)]

/-- How a pinned resolver is shown. -/
def shownPinned (id : String) : String :=
  Text.shownPartly "PinnedKeyResolver" [("key_id", Text.quoted id)]

end PublicResolver

end Attest.Key
