/-
Documents as values of their own.

A document has a value if it can be written out with every alias replaced by what it stands for.
That fails if the value would be nested too deeply, if it would be far larger than the document,
and if a mapping would have the same key twice.
-/
import NetDraft.Yaml.Document
import NetDraft.Yaml.Scalar

namespace NetDraft.Yaml

/-- A value without aliases. -/
inductive Value where
  | null
  | flag (value : Bool)
  | integer (value : Int)
  | float (value : Extended64)
  | text (value : String)
  | sequence (items : List Value)
  | mapping (entries : List (Value × Value))
  | tagged (tag : String) (value : Value)

namespace Value

/-- Equality of floats as keys: all that are no numbers are equal, and so are both zeros. -/
def sameFloat : Extended64 → Extended64 → Bool
  | .finite x, .finite y => x.sameValue y
  | .infinite a, .infinite b => a == b
  | .notANumber, .notANumber => true
  | _, _ => false

mutual

/-- Equality of keys; the order of the entries of a mapping does not matter. -/
def same : Value → Value → Bool
  | .null, .null => true
  | .flag a, .flag b => a == b
  | .integer a, .integer b => a == b
  | .float a, .float b => sameFloat a b
  | .text a, .text b => a == b
  | .sequence xs, .sequence ys => sameItems xs ys
  | .mapping xs, .mapping ys => xs.length == ys.length && entriesIn ys xs
  | .tagged s x, .tagged t y => s == t && same x y
  | _, _ => false

/-- Equality item by item. -/
def sameItems : List Value → List Value → Bool
  | [], [] => true
  | x :: xs, y :: ys => same x y && sameItems xs ys
  | _, _ => false

/-- Whether all entries of a list occur in another one. -/
def entriesIn (ys : List (Value × Value)) : List (Value × Value) → Bool
  | [] => true
  | (k, v) :: rest => ys.any (fun entry => same k entry.1 && same v entry.2) && entriesIn ys rest

end

end Value

mutual

/-- How many steps it takes to walk through a node. -/
def Node.size : Node → Nat
  | .scalar .. => 1
  | .alias .. => 1
  | .sequence _ _ items => 2 + Node.sizeItems items
  | .mapping _ _ entries => 2 + Node.sizeEntries entries

/-- How many steps it takes to walk through the items of a sequence. -/
def Node.sizeItems : List Node → Nat
  | [] => 0
  | n :: rest => n.size + Node.sizeItems rest

/-- How many steps it takes to walk through the entries of a mapping. -/
def Node.sizeEntries : List (Node × Node) → Nat
  | [] => 0
  | (k, v) :: rest => k.size + v.size + Node.sizeEntries rest

end

namespace Document

/-- How deeply values may be nested. -/
def depthLimit : Nat := 128

/-- How many aliases may be replaced. -/
def aliasLimit (d : Document) : Nat :=
  100 * match d.root with
    | some root => root.size
    | none => 1

/-- A part of a value in the making; the state counts the aliases replaced so far. -/
abbrev Expand := StateT Nat Option

/-- What a node or an alias stands for. -/
def expandAlias (d : Document) : Node → Expand Node
  | .alias _ number => do
    let count ← get
    if d.aliasLimit ≤ count then failure
    else do
      set (count + 1)
      match d.target? number with
      | some node => return node
      | none => failure
  | node => return node

/-- The value of a scalar. -/
def scalarValue : Meaning → Option Value
  | .null => some .null
  | .flag b => some (.flag b)
  | .integer i => some (.integer i)
  | .float x => some (.float x)
  | .text s => some (.text s)
  | .wide _ | .unfit _ _ => none

/-- An entry behind others, none of which has its key. -/
def addEntry (entries : List (Value × Value)) (key value : Value) : Expand (List (Value × Value)) :=
  if entries.any fun entry => entry.1.same key then failure else return entries ++ [(key, value)]

/-- The value with the tag of the document's own that its node has. -/
def withTag (tag : Option String) (value : Value) : Value :=
  match tag with
  | some name => .tagged name value
  | none => value

/-- The value of a node inside which collections may be nested `depth` deep. -/
def expand (d : Document) (depth : Nat) (node : Node) : Expand Value := do
  let node ← d.expandAlias node
  match node with
  | .scalar _ tag style s =>
    let own := node.ownTag?
    let meaning := if own.isSome ∧ style = .plain then plainMeaning s
      else if own.isSome then .text s
      else scalarMeaning tag style s
    match scalarValue meaning with
    | some value => return withTag own value
    | none => failure
  | .sequence _ _ items =>
    match depth with
    | 0 => failure
    | depth + 1 => do
      let items ← items.mapM (d.expand depth)
      return withTag node.ownTag? (.sequence items)
  | .mapping _ _ entries =>
    match depth with
    | 0 => failure
    | depth + 1 => do
      let entries ← entries.foldlM (fun done (k, v) => do
        let key ← d.expand depth k
        let value ← d.expand depth v
        addEntry done key value) []
      return withTag node.ownTag? (.mapping entries)
  | .alias _ _ => failure

/-- Whether the document has a value. -/
def hasValue (d : Document) : Bool :=
  match d.root with
  | some root => ((d.expand depthLimit root).run 0).isSome
  | none => true

end Document

end NetDraft.Yaml
