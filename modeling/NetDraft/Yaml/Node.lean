/-
The nodes of a document.

A document is read by descent through its tokens.  Anchors are numbered: an anchor gets the number
of different names that were in use before it, an alias stands for the number that its name has at
that place, and a number stands for the last node that got it.  As long as no name is given twice
this is what one expects.
-/
import NetDraft.Yaml.Tokens

namespace NetDraft.Yaml

/-- A node with the place where it begins. -/
inductive Node where
  | scalar (mark : Mark) (tag : Option (List UInt8)) (style : Style) (text : String)
  | sequence (mark : Mark) (tag : Option (List UInt8)) (items : List Node)
  | mapping (mark : Mark) (tag : Option (List UInt8)) (entries : List (Node × Node))
  | alias (mark : Mark) (number : Nat)

/-- A node that aliases may stand for. -/
structure Anchor where
  number : Nat
  /-- How many anchors stood in front of it. -/
  order : Nat
  node : Node

/-- The state of a descent. -/
structure Descent where
  tokens : List Token
  /-- What the handles of tags stand for. -/
  handles : List (List Char × List UInt8)
  /-- The number that each name has. -/
  names : List (List Char × Nat)
  /-- How many anchors were seen. -/
  seen : Nat
  anchors : List Anchor

/-- A part of a descent; it fails on a text that is not well-formed. -/
abbrev Parse := StateT Descent Option

namespace Parse

/-- The next token. -/
def peek : Parse Token := do
  match (← get).tokens with
  | t :: _ => return t
  | [] => failure

/-- Leaves the next token behind. -/
def advance : Parse Unit := modify fun d => { d with tokens := d.tokens.drop 1 }

/-- The number that a name has. -/
def numberOf (name : List Char) : Parse Nat := do
  match (← get).names.lookup name with
  | some n => return n
  | none => failure

/-- Gives a number to a name, and returns it with the place of the anchor among all of them. -/
def declare (name : List Char) : Parse (Nat × Nat) := do
  let d ← get
  let number := d.names.length
  set { d with
    names := (name, number) :: d.names.filter (·.1 != name)
    seen := d.seen + 1 }
  return (number, d.seen)

/-- Remembers the node of an anchor. -/
def anchored (anchor : Option (Nat × Nat)) (node : Node) : Parse Node := do
  match anchor with
  | some (number, order) =>
    modify fun d => { d with anchors := ⟨number, order, node⟩ :: d.anchors }
  | none => pure ()
  return node

/-! ### Properties -/

/-- What may stand in front of a node. -/
structure Properties where
  start : Option Mark
  anchor : Option (List Char)
  tag : Option (List UInt8)

/-- The bytes in front of the first one that is zero. -/
def beforeZero (bytes : List UInt8) : List UInt8 := bytes.takeWhile (· != 0)

/-- The full name of a tag. -/
def fullTag (handle : List Char) (suffix : List UInt8) : Parse (List UInt8) := do
  if handle.isEmpty then return beforeZero suffix
  else
    match (← get).handles.lookup handle with
    | some spelled => return beforeZero spelled ++ beforeZero suffix
    | none => failure

/-- Reads an anchor, if one stands here. -/
def anchorName : Parse (Option (List Char)) := do
  match (← peek).kind with
  | .anchor name => do
    advance
    return some name
  | _ => return none

/-- Reads a tag, if one stands here. -/
def tagName : Parse (Option (List Char × List UInt8)) := do
  match (← peek).kind with
  | .tag handle suffix => do
    advance
    return some (handle, suffix)
  | _ => return none

/-- Reads an anchor and a tag, each of which may be absent, in either order. -/
def properties : Parse Properties := do
  let first ← peek
  let before ← anchorName
  let spelled ← tagName
  let behind ← if before.isNone ∧ spelled.isSome then anchorName else pure none
  let anchor := before <|> behind
  let start := if anchor.isSome ∨ spelled.isSome then some first.start else none
  match spelled with
  | some (handle, suffix) => return ⟨start, anchor, some (← fullTag handle suffix)⟩
  | none => return ⟨start, anchor, none⟩

/-! ### Nodes

The same node is read differently depending on where it stands: inside brackets no block may
begin, and only the items of a mapping may be items of a sequence without indentation. -/

/-- Where a node stands. -/
inductive Context where
  | flow
  | block
  /-- A key or a value of a block mapping. -/
  | blockMapping
deriving DecidableEq

/-- A scalar without text. -/
def emptyScalar (mark : Mark) (tag : Option (List UInt8)) : Node := .scalar mark tag .plain ""

/-- Whether a token ends a part of a block. -/
def endsPart (kinds : List TokenKind) (t : Token) : Bool := kinds.contains t.kind

/-- The token at which the next item in brackets of the given end begins, or the end.  All items
but the first one stand behind a comma. -/
def flowNext (ending : TokenKind) (first : Bool) : Parse Token := do
  let t ← peek
  if first ∨ t.kind = ending then return t
  else if t.kind = .flowEntry then do
    advance
    peek
  else failure

mutual

/-- Reads a node. -/
def node : (fuel : Nat) → Context → Parse Node
  | 0, _ => failure
  | fuel + 1, context => do
    let t ← peek
    match t.kind with
    | .alias name => do
      let number ← numberOf name
      advance
      return .alias t.start number
    | _ => do
      let p ← properties
      let anchor ← p.anchor.mapM declare
      let t ← peek
      let n ← content fuel context (p.start.getD t.start) p.tag (p.start.isSome) t.kind
      anchored anchor n

/-- Reads a node behind its properties; without any, it must not be empty. -/
def content : (fuel : Nat) → Context → Mark → Option (List UInt8) → (hasProperties : Bool) →
    TokenKind → Parse Node
  | 0, _, _, _, _, _ => failure
  | fuel + 1, context, mark, tag, hasProperties, kind => do
    match kind, context with
    | .blockEntry, .blockMapping => return .sequence mark tag (← indentlessItems fuel)
    | .scalar style text, _ => do
      advance
      return .scalar mark tag style (String.ofList text)
    | .flowSequenceStart, _ => do
      advance
      return .sequence mark tag (← flowItems fuel true)
    | .flowMappingStart, _ => do
      advance
      return .mapping mark tag (← flowEntries fuel true)
    | .blockSequenceStart, .block => do
      advance
      return .sequence mark tag (← blockItems fuel)
    | .blockSequenceStart, .blockMapping => do
      advance
      return .sequence mark tag (← blockItems fuel)
    | .blockMappingStart, .block => do
      advance
      return .mapping mark tag (← blockEntries fuel)
    | .blockMappingStart, .blockMapping => do
      advance
      return .mapping mark tag (← blockEntries fuel)
    | _, _ => if hasProperties then return emptyScalar mark tag else failure

/-- Reads a node, or an empty one at a place if one of the given tokens stands here. -/
def nodeUnless : (fuel : Nat) → Context → List TokenKind → Mark → Parse Node
  | 0, _, _, _ => failure
  | fuel + 1, context, ends, mark => do
    if endsPart ends (← peek) then return emptyScalar mark none else node fuel context

/-- Reads the items of a block sequence. -/
def blockItems : (fuel : Nat) → Parse (List Node)
  | 0 => failure
  | fuel + 1 => do
    let t ← peek
    match t.kind with
    | .blockEntry => do
      advance
      let item ← nodeUnless fuel .block [.blockEntry, .blockEnd] t.stop
      return item :: (← blockItems fuel)
    | .blockEnd => do
      advance
      return []
    | _ => failure

/-- Reads the items of a sequence at the column of the mapping that contains it. -/
def indentlessItems : (fuel : Nat) → Parse (List Node)
  | 0 => failure
  | fuel + 1 => do
    let t ← peek
    match t.kind with
    | .blockEntry => do
      advance
      let item ← nodeUnless fuel .block [.blockEntry, .key, .value, .blockEnd] t.stop
      return item :: (← indentlessItems fuel)
    | _ => return []

/-- Reads the entries of a block mapping. -/
def blockEntries : (fuel : Nat) → Parse (List (Node × Node))
  | 0 => failure
  | fuel + 1 => do
    let t ← peek
    match t.kind with
    | .key => do
      advance
      let key ← nodeUnless fuel .blockMapping [.key, .value, .blockEnd] t.stop
      let value ← blockValue fuel
      return (key, value) :: (← blockEntries fuel)
    | .blockEnd => do
      advance
      return []
    | _ => failure

/-- Reads the value of an entry of a block mapping. -/
def blockValue : (fuel : Nat) → Parse Node
  | 0 => failure
  | fuel + 1 => do
    let t ← peek
    match t.kind with
    | .value => do
      advance
      nodeUnless fuel .blockMapping [.key, .value, .blockEnd] t.stop
    | _ => return emptyScalar t.start none

/-- Reads the items of a sequence in brackets. -/
def flowItems : (fuel : Nat) → (first : Bool) → Parse (List Node)
  | 0, _ => failure
  | fuel + 1, first => do
    let t ← flowNext .flowSequenceEnd first
    match t.kind with
    | .flowSequenceEnd => do
      advance
      return []
    | .key => do
      advance
      let key ← pairKey fuel
      let value ← flowValue fuel .flowSequenceEnd
      return .mapping t.start none [(key, value)] :: (← flowItems fuel false)
    | _ => do
      let item ← node fuel .flow
      return item :: (← flowItems fuel false)

/-- Reads the key of an entry that stands in a sequence.  A token that ends the entry is left
behind. -/
def pairKey : (fuel : Nat) → Parse Node
  | 0 => failure
  | fuel + 1 => do
    let t ← peek
    if endsPart [.value, .flowEntry, .flowSequenceEnd] t then do
      advance
      return emptyScalar t.stop none
    else node fuel .flow

/-- Reads the entries of a mapping in brackets. -/
def flowEntries : (fuel : Nat) → (first : Bool) → Parse (List (Node × Node))
  | 0, _ => failure
  | fuel + 1, first => do
    let t ← flowNext .flowMappingEnd first
    match t.kind with
    | .flowMappingEnd => do
      advance
      return []
    | .key => do
      advance
      let next ← peek
      let key ← nodeUnless fuel .flow [.value, .flowEntry, .flowMappingEnd] next.start
      let value ← flowValue fuel .flowMappingEnd
      return (key, value) :: (← flowEntries fuel false)
    | _ => do
      let key ← node fuel .flow
      let next ← peek
      return (key, emptyScalar next.start none) :: (← flowEntries fuel false)

/-- Reads the value of an entry in brackets of the given end. -/
def flowValue : (fuel : Nat) → TokenKind → Parse Node
  | 0, _ => failure
  | fuel + 1, ending => do
    let t ← peek
    match t.kind with
    | .value => do
      advance
      let next ← peek
      nodeUnless fuel .flow [.flowEntry, ending] next.start
    | _ => return emptyScalar t.start none

end

end Parse

end NetDraft.Yaml
