/-
Texts that hold one document.

A text without any document counts as one without any node.  A text with more than one document is
refused, whatever the first one holds.
-/
import NetDraft.Yaml.Node

namespace NetDraft.Yaml

/-- A document. -/
structure Document where
  /-- The node that the document is, if it is not empty. -/
  root : Option Node
  /-- Where the document ends. -/
  stop : Mark
  anchors : List Anchor

namespace Document

/-- The node that a number stands for. -/
def target? (d : Document) (number : Nat) : Option Node :=
  let sameNumber := d.anchors.filter (·.number == number)
  (sameNumber.find? fun a => sameNumber.all (·.order ≤ a.order)).map (·.node)

/-- A node, or what it stands for if it is an alias. -/
def follow (d : Document) : Node → Node
  | .alias mark number => (d.target? number).getD (.alias mark number)
  | node => node

end Document

namespace Parse

/-- The handles that need no directive. -/
def standardHandles : List (List Char × List UInt8) :=
  [(['!'], asciiBytes ['!']), (['!', '!'], asciiBytes "tag:yaml.org,2002:".toList)]

/-- Reads the directives of a document, of which there are less than `fuel`. -/
def directives : (fuel : Nat) → (versionSeen : Bool) → Parse Unit
  | 0, _ => failure
  | fuel + 1, versionSeen => do
    match (← peek).kind with
    | .versionDirective major minor =>
      if versionSeen ∨ major ≠ 1 ∨ (minor ≠ 1 ∧ minor ≠ 2) then failure
      else do
        advance
        directives fuel true
    | .tagDirective handle spelled => do
      if ((← get).handles.lookup handle).isSome then failure
      advance
      modify fun d => { d with handles := d.handles ++ [(handle, spelled)] }
      directives fuel versionSeen
    | _ => modify fun d => { d with handles := d.handles ++ standardHandles }

/-- Leaves the marks of the end of a document behind, of which there are less than `fuel`. -/
def documentEnds : (fuel : Nat) → Parse Unit
  | 0 => failure
  | fuel + 1 => do
    if (← peek).kind = .documentEnd then
      advance
      documentEnds fuel

/-- Reads the node of the only document. -/
def document : Parse (Option Node) := do
  let fuel := 4 * (← get).tokens.length + 8
  let t ← peek
  match t.kind with
  | .streamEnd => return none
  | .versionDirective _ _ | .tagDirective _ _ | .documentStart => do
    directives fuel false
    if (← peek).kind ≠ .documentStart then failure
    advance
    let t ← peek
    let root ← match t.kind with
      | .versionDirective _ _ | .tagDirective _ _ | .documentStart | .documentEnd
      | .streamEnd => pure (emptyScalar t.start none)
      | _ => node fuel .block
    documentEnds fuel
    return some root
  | _ => do
    directives fuel false
    let root ← node fuel .block
    documentEnds fuel
    return some root

end Parse

/-- Reads a text that holds one document at most; there is none if it is not well-formed. -/
def Document.ofText? (text : String) : Option Document := do
  let tokens ← tokens? text.toList
  let (root, d) ← Parse.document.run ⟨tokens, [], [], 0, []⟩
  match d.tokens with
  | [last] => if last.kind = .streamEnd then some ⟨root, last.start, d.anchors⟩ else none
  | _ => none

end NetDraft.Yaml
