/-
The tokens of a text.

The difficulty of YAML is that a key is only known to be one when its colon comes.  Wherever a key
may begin, the lexer remembers the place as a candidate, one at each depth of brackets; when a
colon follows on the same line and not too far behind, the token of the key, and that of the
mapping which it may open, are put in front of the tokens read since.  Outside brackets the column
decides where blocks begin and end.

A text that cannot be cut into tokens gives none at all.  The words for what is wrong with it are
not part of what anybody is told.
-/
import NetDraft.Yaml.BlockText
import NetDraft.Yaml.Property

namespace NetDraft.Yaml

/-- A place where a key may have begun. -/
structure Candidate where
  mark : Mark
  /-- How many tokens stood in front of it. -/
  position : Nat
  /-- Whether nothing but a key can stand there. -/
  isRequired : Bool

/-- The state of the lexer. -/
structure Lexer where
  cursor : Cursor
  tokens : Array Token
  /-- The columns of the blocks that are open, the innermost first. -/
  blocks : List Nat
  /-- Whether a key may begin here. -/
  keyAllowed : Bool
  /-- The candidate outside brackets or inside the innermost ones. -/
  candidate : Option Candidate
  /-- The candidates around each of the brackets that are open, the innermost first. -/
  outer : List (Option Candidate)

namespace Lexer

/-- The lexer at the beginning of a text. -/
def start (cs : List Char) : Lexer := ⟨.ofList cs, #[], [], true, none, []⟩

/-- Whether brackets are open. -/
def inFlow (l : Lexer) : Bool := !l.outer.isEmpty

/-- The column of the innermost block; outside of all blocks it lies in front of the line. -/
def indent (l : Lexer) : Int :=
  match l.blocks with
  | column :: _ => column
  | [] => -1

/-- Adds a token. -/
def emit (l : Lexer) (kind : TokenKind) (start stop : Mark) : Lexer :=
  { l with tokens := l.tokens.push ⟨kind, start, stop⟩ }

/-- Adds a token without extent where the cursor stands. -/
def emitHere (l : Lexer) (kind : TokenKind) : Lexer := l.emit kind l.cursor.mark l.cursor.mark

/-- Puts a token without extent in front of those from a position on. -/
def insertAt (l : Lexer) (position : Nat) (kind : TokenKind) (mark : Mark) : Lexer :=
  { l with tokens := l.tokens.insertIdxIfInBounds position ⟨kind, mark, mark⟩ }

/-- Moves the cursor behind the next `n` characters and adds the token that they are. -/
def emitSkip (l : Lexer) (kind : TokenKind) (n : Nat) : Lexer :=
  let stop := l.cursor.skip n
  { l with cursor := stop }.emit kind l.cursor.mark stop.mark

/-! ### Candidates -/

/-- Gives up a candidate, unless nothing but a key could stand there. -/
def dropCandidate? : Option Candidate → Option Unit
  | some k => if k.isRequired then none else some ()
  | none => some ()

/-- Keeps a candidate as long as the cursor is on its line and not too far behind it. -/
def refresh? (mark : Mark) : Option Candidate → Option (Option Candidate)
  | some k =>
    if k.mark.line < mark.line ∨ k.mark.index + 1024 < mark.index then
      if k.isRequired then none else some none
    else some (some k)
  | none => some none

/-- Gives up the candidates that have become too old. -/
def refreshAll? (l : Lexer) : Option Lexer := do
  let outer ← l.outer.mapM (refresh? l.cursor.mark)
  let candidate ← refresh? l.cursor.mark l.candidate
  return { l with candidate, outer }

/-- Gives up the innermost candidate. -/
def forget? (l : Lexer) : Option Lexer := do
  dropCandidate? l.candidate
  return { l with candidate := none }

/-- Remembers the place as one where a key may begin, if one is allowed here. -/
def remember? (l : Lexer) : Option Lexer :=
  if l.keyAllowed then do
    dropCandidate? l.candidate
    let isRequired := !l.inFlow && l.indent == l.cursor.mark.column
    return { l with candidate := some ⟨l.cursor.mark, l.tokens.size, isRequired⟩ }
  else some l

/-! ### Blocks -/

/-- Closes the blocks that begin to the right of a column. -/
def closeBlocks (l : Lexer) (column : Int) : Lexer :=
  if l.inFlow then l
  else
    let closed := (l.blocks.takeWhile fun b : Nat => column < b).length
    let ends := List.replicate closed ⟨.blockEnd, l.cursor.mark, l.cursor.mark⟩
    { l with blocks := l.blocks.drop closed, tokens := l.tokens ++ ends.toArray }

/-- Opens a block at a column to the right of the innermost one, with a token in front of those
from a position on. -/
def openBlock (l : Lexer) (column position : Nat) (kind : TokenKind) (mark : Mark) : Lexer :=
  if !l.inFlow && l.indent < column then
    { l.insertAt position kind mark with blocks := column :: l.blocks }
  else l

/-- Opens a block where the cursor stands. -/
def openBlockHere (l : Lexer) (kind : TokenKind) : Lexer :=
  l.openBlock l.cursor.mark.column l.tokens.size kind l.cursor.mark

/-! ### Steps

Each step reads one token from where the cursor stands. -/

/-- The end of the text; it lies on a line of its own. -/
def endStream? (l : Lexer) : Option Lexer := do
  let m := l.cursor.mark
  let mark := if m.column = 0 then m else ⟨m.index, m.line + 1, 0⟩
  let l ← ({ l with cursor := { l.cursor with mark } }.closeBlocks (-1)).forget?
  return { l with keyAllowed := false }.emitHere .streamEnd

/-- A directive. -/
def directive? (l : Lexer) : Option Lexer := do
  let l ← (l.closeBlocks (-1)).forget?
  let (kind, stop, cursor) ← Yaml.directive? l.cursor
  return { l with keyAllowed := false, cursor }.emit kind l.cursor.mark stop

/-- The mark of a beginning or an ending document. -/
def documentMark? (l : Lexer) (kind : TokenKind) : Option Lexer := do
  let l ← (l.closeBlocks (-1)).forget?
  return { l with keyAllowed := false }.emitSkip kind 3

/-- An opening bracket. -/
def openFlow? (l : Lexer) (kind : TokenKind) : Option Lexer := do
  let l ← l.remember?
  return { l with
    outer := l.candidate :: l.outer, candidate := none, keyAllowed := true }.emitSkip kind 1

/-- A closing bracket. -/
def closeFlow? (l : Lexer) (kind : TokenKind) : Option Lexer := do
  let l ← l.forget?
  let l := match l.outer with
    | candidate :: outer => { l with candidate, outer }
    | [] => l
  return { l with keyAllowed := false }.emitSkip kind 1

/-- A comma. -/
def flowEntry? (l : Lexer) : Option Lexer := do
  let l ← l.forget?
  return { l with keyAllowed := true }.emitSkip .flowEntry 1

/-- The dash of an item of a block. -/
def blockEntry? (l : Lexer) : Option Lexer := do
  if !l.inFlow ∧ !l.keyAllowed then none
  let l ← (l.openBlockHere .blockSequenceStart).forget?
  return { l with keyAllowed := true }.emitSkip .blockEntry 1

/-- A question mark in front of a key. -/
def explicitKey? (l : Lexer) : Option Lexer := do
  if !l.inFlow ∧ !l.keyAllowed then none
  let l ← (l.openBlockHere .blockMappingStart).forget?
  return { l with keyAllowed := !l.inFlow }.emitSkip .key 1

/-- The colon behind a key. -/
def value? (l : Lexer) : Option Lexer :=
  match l.candidate with
  | some k =>
    let l := l.insertAt k.position .key k.mark
    let l := l.openBlock k.mark.column k.position .blockMappingStart k.mark
    some ({ l with candidate := none, keyAllowed := false }.emitSkip .value 1)
  | none =>
    if !l.inFlow ∧ !l.keyAllowed then none
    else
      let l := l.openBlockHere .blockMappingStart
      some ({ l with keyAllowed := !l.inFlow }.emitSkip .value 1)

/-- An anchor or an alias. -/
def anchor? (l : Lexer) (kind : List Char → TokenKind) : Option Lexer := do
  let l ← l.remember?
  let (name, cursor) ← anchorName? (l.cursor.skip 1)
  return { l with keyAllowed := false, cursor }.emit (kind name) l.cursor.mark cursor.mark

/-- A tag. -/
def tag? (l : Lexer) : Option Lexer := do
  let l ← l.remember?
  let (kind, cursor) ← Yaml.tag? l.inFlow l.cursor
  return { l with keyAllowed := false, cursor }.emit kind l.cursor.mark cursor.mark

/-- A block scalar. -/
def block? (l : Lexer) (literal : Bool) : Option Lexer := do
  let l ← l.forget?
  let (text, stop, cursor) ← Yaml.block? literal l.indent l.cursor
  let style := if literal then .literal else .folded
  return { l with keyAllowed := true, cursor }.emit (.scalar style text) l.cursor.mark stop

/-- A quoted scalar. -/
def quoted? (l : Lexer) (single : Bool) : Option Lexer := do
  let l ← l.remember?
  let (text, cursor) ← Yaml.quoted? single l.cursor
  let style := if single then .singleQuoted else .doubleQuoted
  return { l with keyAllowed := false, cursor }.emit (.scalar style text) l.cursor.mark cursor.mark

/-- A plain scalar.  If a line was broken behind it, a key may begin there. -/
def plain? (l : Lexer) : Option Lexer := do
  let l ← l.remember?
  let p ← Yaml.plain? l.inFlow (l.indent + 1).toNat l.cursor
  return { l with keyAllowed := p.broken, cursor := p.behind }.emit
    (.scalar .plain p.text) l.cursor.mark p.stop

/-! ### Between tokens -/

/-- Skips blanks, comments and line breaks.  Outside brackets a key may begin on a new line; where
one may begin, no tab may stand in front of it. -/
def skipSpacing (keyAllowed inFlow : Bool) : (fuel : Nat) → Cursor → Bool × Cursor
  | 0, c => (keyAllowed, c)
  | fuel + 1, c =>
    let c := if c.mark.index = 0 ∧ c.rest.head? = some '\ufeff' then c.skip 1 else c
    let c := c.skipWhile fun d => d == ' ' || ((inFlow || !keyAllowed) && d == '\t')
    let c := c.skipComment
    match c.takeBreak? with
    | some (_, c) => skipSpacing (keyAllowed || !inFlow) inFlow fuel c
    | none => (keyAllowed, c)

/-- The signs that a plain scalar cannot begin with. -/
def isIndicator (c : Char) : Bool :=
  c == '-' || c == '?' || c == ':' || isFlowSign c || c == '#' || c == '&' || c == '*' || c == '!'
    || c == '|' || c == '>' || c == '\'' || c == '"' || c == '%' || c == '@' || c == '\x60'

/-- Reads the token that begins with the given sign. -/
def token? (l : Lexer) (c : Char) (rest : List Char) : Option Lexer :=
  let atStart := l.cursor.mark.column == 0
  if atStart ∧ c = '%' then l.directive?
  else if l.cursor.atDocumentMark '-' then l.documentMark? .documentStart
  else if l.cursor.atDocumentMark '.' then l.documentMark? .documentEnd
  else if c = '[' then l.openFlow? .flowSequenceStart
  else if c = '\x7b' then l.openFlow? .flowMappingStart
  else if c = ']' then l.closeFlow? .flowSequenceEnd
  else if c = '\x7d' then l.closeFlow? .flowMappingEnd
  else if c = ',' then l.flowEntry?
  else if c = '-' ∧ endsWord rest then l.blockEntry?
  else if c = '?' ∧ (l.inFlow ∨ endsWord rest) then l.explicitKey?
  else if c = ':' ∧ (l.inFlow ∨ endsWord rest) then l.value?
  else if c = '*' then l.anchor? .alias
  else if c = '&' then l.anchor? .anchor
  else if c = '!' then l.tag?
  else if c = '|' ∧ !l.inFlow then l.block? true
  else if c = '>' ∧ !l.inFlow then l.block? false
  else if c = '\'' then l.quoted? true
  else if c = '"' then l.quoted? false
  else if !(isSpacing c || isIndicator c) ∨ (c = '-' ∧ !rest.head?.any isBlank)
      ∨ (!l.inFlow ∧ (c = '?' ∨ c = ':') ∧ !endsWord rest) then l.plain?
  else none

/-- Reads the tokens of the rest of the text, which has less than `fuel` characters; every token
takes one at least. -/
def run? : (fuel : Nat) → Lexer → Option (List Token)
  | 0, _ => none
  | fuel + 1, l => do
    let (keyAllowed, cursor) := skipSpacing l.keyAllowed l.inFlow (fuel + 1) l.cursor
    let l ← { l with keyAllowed, cursor }.refreshAll?
    let l := l.closeBlocks cursor.mark.column
    match cursor.rest with
    | [] => return (← l.endStream?).tokens.toList
    | c :: rest => run? fuel (← l.token? c rest)

end Lexer

/-- The tokens of a text, the last of which marks its end. -/
def tokens? (text : List Char) : Option (List Token) :=
  if text.all isAllowed then Lexer.run? (text.length + 1) (.start text) else none

end NetDraft.Yaml
