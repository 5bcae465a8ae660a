import Attest.Config.Path
import Attest.Config.Value

/-!
# Configurations

A configuration is a table of values that is built in layers: the entries of a later
layer are written, each along the path that its key means, over those of the earlier
ones.  What it says about a path is a text.
-/

namespace Attest

/-- A table of values. -/
structure Config where
  root : Table Json := []
  deriving Repr, Inhabited

namespace Config

/-- The configuration that says nothing. -/
def empty : Config := {}

/-- Write an entry along the path that its key means. -/
def set (config : Config) (key : String) (value : Json) : Config :=
  ⟨(Path.ofKey key).set value config.root⟩

/-- Write the entries of a layer. -/
def overlay (config : Config) (layer : List (String × Json)) : Config :=
  layer.foldl (fun config (key, value) => config.set key value) config

/-- The text at the path that a key spells. -/
def text? (config : Config) (key : String) : Option String := do
  let path ← Path.ofText? key
  textOf? (← path.get? config.root)

end Config

end Attest
