/-
Faults of well-formed documents and where they are reported.

A fault lies in a node.  It is reported with the path from the root to the node and the place where
the node begins.
-/
import NetDraft.Binary64.Shortest
import NetDraft.Mismatch
import NetDraft.Yaml.Value

namespace NetDraft.Yaml

/-- The way from the root of a document to a node. -/
inductive Path where
  | root
  | item (parent : Path) (index : Nat)
  | field (parent : Path) (name : String)
  /-- The value of a key that is no text. -/
  | unnamed (parent : Path)

namespace Path

/-- The path as text, without the dot that stands for the root alone. -/
def text : Path → String
  | root => "."
  | item parent i => parent.text ++ "[" ++ Text.decimal i ++ "]"
  | field root name => name
  | field parent name => parent.text ++ "." ++ name
  | unnamed root => "?"
  | unnamed parent => parent.text ++ ".?"

end Path

/-- YAML calls null a unit value, and its floats are written out without exponents. -/
def wording : Wording where
  null := "unit value"
  float x := x.text ⟨fun _ => true, .up⟩

/-- A fault of a document. -/
structure Fault where
  mismatch : Mismatch
  /-- The node in which the fault lies, unless it is not told. -/
  place : Option (Path × Mark)

/-- The report of a fault.  The root and the beginning of the text are not mentioned. -/
def Fault.message (f : Fault) : String :=
  let words := f.mismatch.message wording
  match f.place with
  | none => words
  | some (path, mark) =>
    let words := if path.text = "." then words else path.text ++ ": " ++ words
    if mark.line = 0 ∧ mark.column = 0 then words
    else words ++ " at line " ++ Text.decimal (mark.line + 1)
      ++ " column " ++ Text.decimal (mark.column + 1)

end NetDraft.Yaml
