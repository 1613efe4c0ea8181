/-
Reading values of a shape from YAML documents.

Entries are taken in the order in which they stand; a missing field is noticed at the end.  A node
without text counts as an empty collection where one is wanted, and every scalar counts as its
text where a text is wanted.  A fault is reported at the innermost node whose reading failed.
-/
import NetDraft.Shape
import NetDraft.Yaml.Fault

namespace NetDraft

open Yaml (Node Document Path Mark Meaning Style)

namespace Yaml

/-- Where a node begins. -/
def Node.mark : Node → Mark
  | .scalar mark .. | .sequence mark .. | .mapping mark .. | .alias mark _ => mark

/-- A mismatch in a node. -/
def refuse {α : Type} (m : Mismatch) (path : Path) (mark : Mark) : Except Fault α :=
  .error ⟨m, some (path, mark)⟩

/-- A mismatch for a scalar that does not stand for what is expected. -/
def Meaning.mismatch (expected : String) : Meaning → Mismatch
  | .null => .invalidType .null expected
  | .flag b => .invalidType (.flag b) expected
  | .integer i => .invalidType (.integer i) expected
  | .wide i => .invalidType (.integer i) expected
  | .float x => .invalidType (.float x) expected
  | .text s => .invalidType (.text s) expected
  | .unfit s fit => .invalidValue (.text s) fit

/-- A mismatch for a node that is not what is expected. -/
def Node.mismatch (expected : String) : Node → Mismatch
  | .scalar _ tag style s => (scalarMeaning tag style s).mismatch expected
  | .sequence .. => .invalidType .sequence expected
  | .mapping .. => .invalidType .mapping expected
  | .alias .. => .invalidType .absent expected

/-- Refuses a node that is not what is expected. -/
def Node.refuse {α : Type} (n : Node) (expected : String) (path : Path) : Except Fault α :=
  Yaml.refuse (n.mismatch expected) path n.mark

/-- Reports a mismatch at a node. -/
def Node.placed {α : Type} (n : Node) (path : Path) : Except Mismatch α → Except Fault α
  | .ok a => .ok a
  | .error m => Yaml.refuse m path n.mark

/-- Whether a node is a plain scalar without text. -/
def Node.isEmptyPlain : Node → Bool
  | .scalar _ _ style s => style = .plain && s.isEmpty
  | _ => false

/-- The text of a node. -/
def Node.text (n : Node) (expected : String) (path : Path) : Except Fault String :=
  match n with
  | .scalar _ _ _ s => .ok s
  | other => other.refuse expected path

/-- The text of a scalar from which a flag or an integer is read: a plain one, or a literal one
whose tag demands it. -/
def Node.wordText? (n : Node) (tagName : String) : Option String :=
  match n with
  | .scalar _ tag style s =>
    if style = .plain ∨ (style = .literal ∧ tag = some (standardTag tagName)) then some s
    else none
  | _ => none

/-- The flag that a node is. -/
def Node.flag (n : Node) (path : Path) : Except Fault Bool :=
  match n.wordText? "bool" >>= flagOf? with
  | some b => .ok b
  | none => n.refuse Shape.flag.expectation path

/-- The natural number of 32 bits that a node is. -/
def Node.word (n : Node) (path : Path) : Except Fault UInt32 :=
  match n.wordText? "int" >>= fun s => natural? (Nat.pow 2 64) s.toList with
  | some i =>
    if i < 0x100000000 then .ok (.ofNat i)
    else Yaml.refuse (.invalidValue (.integer i) Shape.word.expectation) path n.mark
  | none => n.refuse Shape.word.expectation path

/-- The integer of 64 bits that a node is. -/
def Node.integer (n : Node) (path : Path) : Except Fault Word64 :=
  match n.wordText? "int" >>= fun s => integer? s.toList with
  | some (.integer i) =>
    if h : -0x8000000000000000 ≤ i ∧ i < 0x8000000000000000 then .ok ⟨i, h⟩
    else Yaml.refuse (.invalidValue (.integer i) Shape.integer.expectation) path n.mark
  | _ => n.refuse Shape.integer.expectation path

/-- The number that a scalar stands for. -/
def Meaning.number : Meaning → Except Mismatch Number
  | .integer i =>
    match Number.ofInt? i with
    | some n => .ok n
    | none => .error (.invalidType (.integer i) Shape.number.expectation)
  | .float (.finite x) => .ok (.float x)
  | .float _ => .error .notFinite
  | other => .error (other.mismatch Shape.number.expectation)

/-- The number that a node is. -/
def Node.number (n : Node) (path : Path) : Except Fault Number :=
  if n.ownTag?.isSome then
    Yaml.refuse (.invalidType .tagged Shape.number.expectation) path n.mark
  else
    match n with
    | .scalar _ tag style s => n.placed path (scalarMeaning tag style s).number
    | other => other.refuse Shape.number.expectation path

/-- Whether a node stands for nothing where something may be left out.  A tag that demands null
has to stand in front of it. -/
def Node.isNothing (n : Node) (path : Path) : Except Fault Bool :=
  match n with
  | .scalar _ tag .plain s =>
    match tag with
    | none => .ok (s.isEmpty || isNullWord s)
    | some tag =>
      if tag ≠ standardTag "null" then .ok false
      else if isNullWord s then .ok true
      else Yaml.refuse (.invalidValue (.text s) "null") path n.mark
  | _ => .ok false

/-- Checks that a node stands for nothing behind a tag. -/
def Node.unit (n : Node) (path : Path) : Except Fault Unit :=
  match n with
  | .scalar _ _ style s =>
    if style = .plain ∧ (s.isEmpty ∨ isNullWord s) then .ok ()
    else Yaml.refuse (.invalidValue (.text s) "null") path n.mark
  | other => other.refuse "unit" path

/-- The name out of several that a node is: its own tag in front of nothing, or else its text. -/
def Node.choice (names : List String) (n : Node) (path : Path) :
    Except Fault (Fin names.length) :=
  match n.ownTag? with
  | some tag =>
    match variantOf names tag with
    | .error m => .error ⟨m, none⟩
    | .ok i => do
      n.unit path
      return i
  | none =>
    match n with
    | .scalar _ _ _ s => n.placed path (variantOf names s)
    | other => other.refuse "a YAML tag starting with '!'" path

/-- The path to the value of a key. -/
def Path.behind (path : Path) : Node → Path
  | .scalar _ _ _ s => .field path s
  | _ => .unnamed path

end Yaml

mutual

/-- Reads a value of a shape. -/
def Shape.ofNode (d : Document) : (s : Shape) → Path → Node → Except Yaml.Fault s.Val
  | .text, path, n => (d.follow n).text Shape.text.expectation path
  | .path, path, n => (d.follow n).text Shape.path.expectation path
  | .flag, path, n => (d.follow n).flag path
  | .word, path, n => (d.follow n).word path
  | .integer, path, n => (d.follow n).integer path
  | .number, path, n => (d.follow n).number path
  | .choice names, path, n => (d.follow n).choice names path
  | .optional s, path, n => do
    if ← (d.follow n).isNothing path then return none
    else return some (← s.ofNode d path (d.follow n))
  | .list s, path, n =>
    match d.follow n with
    | .sequence _ _ items => items.zipIdx.mapM fun (item, i) => s.ofNode d (.item path i) item
    | other =>
      if other.isEmptyPlain then .ok []
      else other.refuse (Shape.list s).expectation path
  | .dict s, path, n =>
    match d.follow n with
    | .mapping _ _ entries =>
      entries.foldlM (fun table (k, v) => do
        let key ← (d.follow k).text Shape.text.expectation path
        let value ← s.ofNode d (path.behind k) v
        return table.insert key value) Dict.empty
    | other =>
      if other.isEmptyPlain then .ok Dict.empty
      else other.refuse (Shape.dict s).expectation path
  | .record name closed fields, path, n =>
    match d.follow n with
    | .mapping mark tag entries => do
      let slots ← entries.foldlM (fun slots (k, v) => do
        let key ← (d.follow k).text "field identifier" path
        fields.putNode d fields.names closed path mark (d.follow k).mark key (path.behind k) v
          slots) fields.blank
      (Node.mapping mark tag entries).placed path (fields.finish slots)
    | other =>
      if other.isEmptyPlain then other.placed path (fields.finish fields.blank)
      else other.refuse (Shape.record name closed fields).expectation path

/-- Reads the value of a key into its slot.  The record is found at `path` and begins at `mark`,
the key at `keyMark`; its value is found at `inner`. -/
def Fields.putNode (d : Document) (names : List String) (closed : Bool) (path : Path)
    (mark keyMark : Mark) (key : String) (inner : Path) (value : Node) :
    (fields : Fields) → fields.Slots → Except Yaml.Fault fields.Slots
  | .nil, slots =>
    if closed then Yaml.refuse (.unknownField key names) path keyMark else .ok slots
  | .required name s rest, (slot, slots) =>
    if name = key then
      match slot with
      | some _ => Yaml.refuse (.duplicateField name) path mark
      | none => do return (some (← s.ofNode d inner value), slots)
    else do
      return (slot, ← rest.putNode d names closed path mark keyMark key inner value slots)
  | .defaulted name s rest, (slot, slots) =>
    if name = key then
      match slot with
      | some _ => Yaml.refuse (.duplicateField name) path mark
      | none => do return (some (← s.ofNode d inner value), slots)
    else do
      return (slot, ← rest.putNode d names closed path mark keyMark key inner value slots)

end

/-- Reads a value of a shape from a document without any node. -/
def Shape.ofNothing (stop : Mark) : (s : Shape) → Except Yaml.Fault s.Val
  | .record _ _ fields =>
    match fields.finish fields.blank with
    | .ok values => .ok values
    | .error m => Yaml.refuse m .root stop
  | .number => Yaml.refuse (.invalidType .absent Shape.number.expectation) .root stop
  | .optional _ => .ok none
  | .list _ => .ok ([] : List _)
  | .dict _ => .ok Dict.empty
  | _ => .error ⟨.endOfText, none⟩

/-- Why a text is refused: it is not well-formed or has no value, and then nothing more is told,
or what it holds has the wrong shape. -/
inductive YamlFault where
  | malformed
  | shape (message : String)
deriving DecidableEq, Repr

/-- Reads a value of a shape from a YAML text. -/
def Shape.ofYaml (s : Shape) (text : String) : Except YamlFault s.Val :=
  match Document.ofText? text with
  | none => .error .malformed
  | some d =>
    let outcome := match d.root with
      | some root => s.ofNode d .root root
      | none => s.ofNothing d.stop
    match outcome with
    | .ok value => .ok value
    | .error fault => .error (if d.hasValue then .shape fault.message else .malformed)

end NetDraft
