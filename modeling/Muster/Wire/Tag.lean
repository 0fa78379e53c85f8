import Muster.Json.Shape
/-!
Tags: labels that an agent registers with. A list of tags keeps its order and may repeat a key.
-/
namespace Muster

/-- A label of an agent. -/
structure Tag where
  key : String
  value : String
deriving Repr, DecidableEq

open Json in
def Tag.shape : Shape Tag where
  name := "Tag"
  types := [String, String]
  fields := .cons (textField "key") (.cons (textField "value") .nil)
  toRow t := (t.key, t.value, ())
  ofRow | (key, value, ()) => ⟨key, value⟩

end Muster
