/-
Names in front of nodes and documents: anchors, aliases, tags and directives.
-/
import NetDraft.Yaml.FlowText

namespace NetDraft.Yaml

/-- The characters of anchors, handles and names of directives. -/
def isNameChar (c : Char) : Bool := c.isAlphanum || c == '_' || c == '-'

/-! ### Anchors and aliases -/

/-- Reads the name of an anchor or alias behind its sign. -/
def anchorName? (c : Cursor) : Option (List Char × Cursor) :=
  let name := c.rest.takeWhile isNameChar
  let behind := c.skip name.length
  let ended := endsWord behind.rest
    || behind.rest.head?.any fun d => d == '?' || d == ':' || d == ',' || d == ']' || d == '\x7d'
      || d == '%' || d == '@' || d == '\x60'
  if name.isEmpty ∨ !ended then none else some (name, behind)

/-! ### Tags

A tag is a handle, which stands for the beginning of a name, and the rest of the name.  Bytes of a
name may be spelled by two hexadecimal digits behind a percent sign, as long as they make up whole
characters. -/

/-- The characters of the name of a tag; the last ones are allowed in names that are fenced in. -/
def isTagChar (fenced : Bool) (c : Char) : Bool :=
  isNameChar c || c == ';' || c == '/' || c == '?' || c == ':' || c == '@' || c == '&' || c == '='
    || c == '+' || c == '$' || c == '.' || c == '%' || c == '!' || c == '~' || c == '*'
    || c == '\'' || c == '(' || c == ')'
    || (fenced && (c == ',' || c == '[' || c == ']'))

/-- How many bytes a character has that begins with the given byte. -/
def encodedLength? (byte : Nat) : Option Nat :=
  if byte < 0x80 then some 1
  else if byte < 0xc0 then none
  else if byte < 0xe0 then some 2
  else if byte < 0xf0 then some 3
  else if byte < 0xf8 then some 4
  else none

/-- The byte that a percent sign and two digits spell. -/
def spelledByte? : List Char → Option (Nat × List Char)
  | '%' :: a :: b :: rest => do
    let high ← hexValue? a
    let low ← hexValue? b
    return (high * 16 + low, rest)
  | _ => none

/-- Reads `n` spelled bytes that go on a character. -/
def continuation? : (n : Nat) → List Char → Option (List UInt8 × List Char)
  | 0, rest => some ([], rest)
  | n + 1, cs => do
    let (byte, rest) ← spelledByte? cs
    if 0x80 ≤ byte ∧ byte < 0xc0 then
      let (bytes, rest) ← continuation? n rest
      return (.ofNat byte :: bytes, rest)
    else none

/-- Reads the name of a tag, of less than `fuel` characters, and tells how many there were. -/
def tagName? (fenced : Bool) : (fuel : Nat) → List Char → Option (List UInt8 × Nat)
  | 0, _ => none
  | fuel + 1, cs =>
    match cs with
    | [] => some ([], 0)
    | c :: rest =>
      if !isTagChar fenced c then some ([], 0)
      else if c = '%' then do
        let (first, behind) ← spelledByte? cs
        let size ← encodedLength? first
        let (bytes, behind) ← continuation? (size - 1) behind
        let (name, length) ← tagName? fenced fuel behind
        return (.ofNat first :: bytes ++ name, length + 3 * size)
      else do
        let (name, length) ← tagName? fenced fuel rest
        return (.ofNat c.toNat :: name, length + 1)

/-- Reads the name of a tag at a cursor. -/
def tagNameAt? (fenced : Bool) (c : Cursor) : Option (List UInt8 × Cursor) := do
  let (name, length) ← tagName? fenced (c.rest.length + 1) c.rest
  return (name, c.skip length)

/-- Reads the handle of a tag: an exclamation mark, or a name between two. -/
def tagHandle? (c : Cursor) : Option (List Char × Cursor) :=
  match c.rest with
  | '!' :: rest =>
    let name := rest.takeWhile isNameChar
    let behind := c.skip (name.length + 1)
    if behind.rest.head? = some '!' then some ('!' :: name ++ ['!'], behind.skip 1)
    else some ('!' :: name, behind)
  | _ => none

/-- The bytes of characters that are all of the first 128. -/
def asciiBytes (cs : List Char) : List UInt8 := cs.map fun c => .ofNat c.toNat

/-- Reads a tag: its handle, which is empty for a fenced name and for a lone exclamation mark, and
the rest of its name. -/
def tag? (inFlow : Bool) (c : Cursor) : Option (TokenKind × Cursor) := do
  let (kind, c) ←
    if ['!', '<'].isPrefixOf c.rest then do
      let (name, c) ← tagNameAt? true (c.skip 2)
      if name.isEmpty ∨ c.rest.head? ≠ some '>' then none
      else some (TokenKind.tag [] name, c.skip 1)
    else do
      let (handle, c) ← tagHandle? c
      if 2 ≤ handle.length ∧ handle.getLast? = some '!' then
        let (name, c) ← tagNameAt? false c
        if name.isEmpty then none else some (TokenKind.tag handle name, c)
      else
        let (name, c) ← tagNameAt? false c
        let name := asciiBytes (handle.drop 1) ++ name
        if name.isEmpty then some (TokenKind.tag [] (asciiBytes ['!']), c)
        else some (TokenKind.tag ['!'] name, c)
  if (inFlow ∧ c.rest.head? = some ',') ∨ endsWord c.rest then some (kind, c) else none

/-! ### Directives -/

/-- Reads one of the two numbers of a version. -/
def versionNumber? (c : Cursor) : Option (Nat × Cursor) :=
  let digits := c.rest.takeWhile Char.isDigit
  if digits.isEmpty ∨ 9 < digits.length then none
  else some (Nat.ofDigitChars 10 digits 0, c.skip digits.length)

/-- Reads the version of a document. -/
def version? (c : Cursor) : Option (TokenKind × Cursor) := do
  let (major, c) ← versionNumber? (c.skipWhile isBlank)
  if c.rest.head? ≠ some '.' then none
  let (minor, c) ← versionNumber? (c.skip 1)
  return (.versionDirective major minor, c)

/-- Reads the meaning of a handle. -/
def tagMeaning? (c : Cursor) : Option (TokenKind × Cursor) := do
  let (handle, c) ← tagHandle? (c.skipWhile isBlank)
  if handle ≠ ['!'] ∧ handle.getLast? ≠ some '!' then none
  if !c.rest.head?.any isBlank then none
  let (name, c) ← tagNameAt? true (c.skipWhile isBlank)
  if name.isEmpty ∨ !endsWord c.rest then none
  return (.tagDirective handle name, c)

/-- Reads a directive from its percent sign on; returns also the place behind it. -/
def directive? (c : Cursor) : Option (TokenKind × Mark × Cursor) := do
  let name := (c.rest.drop 1).takeWhile isNameChar
  let behind := c.skip (name.length + 1)
  if !endsWord behind.rest then none
  let (kind, c) ← match String.ofList name with
    | "YAML" => version? behind
    | "TAG" => tagMeaning? behind
    | _ => none
  let ended ← some ((c.skipWhile isBlank).skipComment)
  if ended.rest.head?.any fun b => !isBreak b then none
  return (kind, c.mark, ended.skipBreak)

end NetDraft.Yaml
