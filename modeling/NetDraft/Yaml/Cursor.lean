/-
Places in a text and steps through it.

A place counts characters, lines and columns from zero.  Line breaks are those of YAML 1.1: besides
the usual three there are the next line character, which reads as a line feed, and the line and
paragraph separators, which read as themselves.
-/
namespace NetDraft.Yaml

/-- A place in a text. -/
structure Mark where
  index : Nat
  line : Nat
  column : Nat
deriving DecidableEq, Repr

/-- The place where a text begins. -/
def Mark.start : Mark := ⟨0, 0, 0⟩

/-- What is left of a text, and where it stands. -/
structure Cursor where
  rest : List Char
  mark : Mark

/-- Whether a character is a space or a tab. -/
def isBlank (c : Char) : Bool := c == ' ' || c == '\t'

/-- Whether a character breaks a line. -/
def isBreak (c : Char) : Bool :=
  c == '\n' || c == '\r' || c == '\x85' || c == '\u2028' || c == '\u2029'

/-- Whether a character ends a word. -/
def isSpacing (c : Char) : Bool := isBlank c || isBreak c

/-- Whether a word ends here: at a blank, at a line break or at the end of the text. -/
def endsWord : List Char → Bool
  | [] => true
  | c :: _ => isSpacing c

/-- Whether a text is allowed in a document: control characters are not, nor are the two last code
points of the first plane. -/
def isAllowed (c : Char) : Bool :=
  c == '\t' || c == '\n' || c == '\r' || ('\x20' ≤ c && c ≤ '\x7e') || c == '\x85'
    || ('\xa0' ≤ c && c ≤ '\ufffd') || 0x10000 ≤ c.toNat

namespace Cursor

/-- A cursor at the beginning of a text. -/
def ofList (cs : List Char) : Cursor := ⟨cs, .start⟩

/-- The cursor behind the next `n` characters, none of which breaks a line. -/
def skip (c : Cursor) (n : Nat) : Cursor where
  rest := c.rest.drop n
  mark := { c.mark with index := c.mark.index + n, column := c.mark.column + n }

/-- The cursor behind the characters in front of it that satisfy a condition; none of them breaks
a line. -/
def skipWhile (p : Char → Bool) (c : Cursor) : Cursor := c.skip (c.rest.takeWhile p).length

/-- The place behind a line break of `n` characters. -/
def nextLine (c : Cursor) (n : Nat) : Mark := ⟨c.mark.index + n, c.mark.line + 1, 0⟩

/-- Takes a line break: the character that it reads as, and the cursor behind it. -/
def takeBreak? (c : Cursor) : Option (Char × Cursor) :=
  match c.rest with
  | '\r' :: '\n' :: rest => some ('\n', ⟨rest, c.nextLine 2⟩)
  | b :: rest =>
    if isBreak b then
      some (if b = '\u2028' ∨ b = '\u2029' then b else '\n', ⟨rest, c.nextLine 1⟩)
    else none
  | [] => none

/-- The cursor behind a line break, if it stands at one. -/
def skipBreak (c : Cursor) : Cursor :=
  match c.takeBreak? with
  | some (_, behind) => behind
  | none => c

/-- The cursor at the end of a comment, if one begins here. -/
def skipComment (c : Cursor) : Cursor :=
  match c.rest with
  | '#' :: _ => c.skipWhile fun c => !isBreak c
  | _ => c

/-- Whether the mark of a document, three times the same sign, stands at the beginning of this
line. -/
def atDocumentMark (sign : Char) (c : Cursor) : Bool :=
  c.mark.column == 0 && [sign, sign, sign].isPrefixOf c.rest && endsWord (c.rest.drop 3)

/-- Whether the mark of a beginning or an ending document stands here. -/
def atAnyDocumentMark (c : Cursor) : Bool := c.atDocumentMark '-' || c.atDocumentMark '.'

end Cursor

end NetDraft.Yaml
