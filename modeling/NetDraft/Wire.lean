/-
Types with a form on the wire.
-/
import NetDraft.Shape.OfJson
import NetDraft.Shape.OfNode
import NetDraft.Shape.OfText
import NetDraft.Shape.ToJson

namespace NetDraft

/-- A type whose values are written and read in a certain shape. -/
class Wire (α : Type) where
  shape : Shape
  ofVal : shape.Val → α
  toVal : α → shape.Val
  /-- What is written is read back. -/
  ofVal_toVal : ∀ a, ofVal (toVal a) = a

namespace Wire

variable {α : Type} [Wire α]

/-- The JSON value of a value. -/
def toJson (a : α) : Json := (shape α).toJson (toVal a)

/-- Reads a value from a JSON value. -/
def ofJson (j : Json) : Except Mismatch α := ((shape α).ofJson j).map ofVal

/-- Reads a value from a JSON text, or reports what is wrong with it. -/
def ofJsonText (text : String) : Except String α := ((shape α).ofText text).map ofVal

/-- Reads a value from a YAML text. -/
def ofYaml (text : String) : Except YamlFault α := ((shape α).ofYaml text).map ofVal

end Wire

end NetDraft
