/-
The text of plain and quoted scalars.

These scalars may run over several lines.  The blanks around a line break do not count, a single
break reads as a space, and of several breaks in a row the first one only ends its line.
-/
import NetDraft.Yaml.Token

namespace NetDraft.Yaml

/-! ### Gaps between words -/

/-- What lies between two words of a scalar: the blanks in front of its first line break, and its
line breaks. -/
structure Gap where
  blanks : List Char
  breaks : List Char

/-- The text that a gap reads as. -/
def Gap.fold (g : Gap) : List Char :=
  match g.breaks with
  | [] => g.blanks
  | ['\n'] => [' ']
  | '\n' :: more => more
  | breaks => breaks

/-- Reads a gap, `broken` telling whether a line was broken before.  Behind a break no tab may
stand in front of the column `indent`. -/
def readGap? (indent : Nat) : (fuel : Nat) → (broken : Bool) → Gap → Cursor → Option (Gap × Cursor)
  | 0, _, g, c => some (g, c)
  | fuel + 1, broken, g, c =>
    match c.rest with
    | [] => some (g, c)
    | b :: _ =>
      if isBlank b then
        if broken then
          if b = '\t' ∧ c.mark.column < indent then none
          else readGap? indent fuel true g (c.skip 1)
        else readGap? indent fuel false { g with blanks := g.blanks ++ [b] } (c.skip 1)
      else
        match c.takeBreak? with
        | some (b, c) => readGap? indent fuel true { g with breaks := g.breaks ++ [b] } c
        | none => some (g, c)

/-- Reads the gap that begins here. -/
def gap? (indent : Nat) (broken : Bool) (c : Cursor) : Option (Gap × Cursor) :=
  readGap? indent ((c.rest.takeWhile isSpacing).length + 1) broken ⟨[], []⟩ c

/-! ### Plain scalars -/

/-- The signs that separate items inside brackets. -/
def isFlowSign (c : Char) : Bool := c == ',' || c == '[' || c == ']' || c == '\x7b' || c == '\x7d'

/-- The characters of a plain scalar up to the next blank or break, or up to a sign that ends it.
Inside brackets a colon in front of a sign is refused. -/
def plainWord? (inFlow : Bool) : List Char → Option (List Char)
  | [] => some []
  | c :: rest =>
    if isSpacing c then some []
    else if inFlow ∧ c = ':' ∧ rest.head?.any (fun d => isFlowSign d || d == '?') then none
    else if (c = ':' ∧ endsWord rest) ∨ (inFlow ∧ isFlowSign c) then some []
    else (plainWord? inFlow rest).map (c :: ·)

/-- A plain scalar: its text, the place behind it, the cursor behind the blanks that follow it,
and whether they broke a line. -/
structure PlainText where
  text : List Char
  stop : Mark
  behind : Cursor
  broken : Bool

/-- The scalar with more text in front of it. -/
def PlainText.prepend (text : List Char) (p : PlainText) : PlainText :=
  { p with text := text ++ p.text }

/-- Reads on a plain scalar, the last word of which ended at `stop`, behind the gap that follows
that word; the text of the gap counts if there is another word. -/
def readPlain? (inFlow : Bool) (indent : Nat) :
    (fuel : Nat) → (stop : Mark) → Gap → Cursor → Option PlainText
  | 0, _, _, _ => none
  | fuel + 1, stop, g, c =>
    let ended : PlainText := ⟨[], stop, c, !g.breaks.isEmpty⟩
    if c.atAnyDocumentMark ∨ c.rest.head? = some '#' then some ended
    else do
      let word ← plainWord? inFlow c.rest
      if word.isEmpty then return ended
      let behind := c.skip word.length
      if behind.rest.head?.any isSpacing then
        let (next, c) ← gap? indent false behind
        if !inFlow ∧ c.mark.column < indent then
          return ⟨g.fold ++ word, behind.mark, c, !next.breaks.isEmpty⟩
        else
          (readPlain? inFlow indent fuel behind.mark next c).map (.prepend (g.fold ++ word))
      else return ⟨g.fold ++ word, behind.mark, behind, false⟩

/-- Reads a plain scalar. -/
def plain? (inFlow : Bool) (indent : Nat) (c : Cursor) : Option PlainText :=
  readPlain? inFlow indent (c.rest.length + 1) c.mark ⟨[], []⟩ c

/-! ### Quoted scalars -/

/-- The value of a hexadecimal digit of either case. -/
def hexValue? (c : Char) : Option Nat :=
  if '0' ≤ c ∧ c ≤ '9' then some (c.toNat - '0'.toNat)
  else if 'a' ≤ c ∧ c ≤ 'f' then some (c.toNat - 'a'.toNat + 10)
  else if 'A' ≤ c ∧ c ≤ 'F' then some (c.toNat - 'A'.toNat + 10)
  else none

/-- The number of the next `n` hexadecimal digits. -/
def hexNumber? (n : Nat) (cs : List Char) : Option Nat :=
  if cs.length < n then none
  else (cs.take n).foldlM (fun value c => (hexValue? c).map (value * 16 + ·)) 0

/-- The character that a backslash and one letter stand for. -/
def letterEscape? : Char → Option Char
  | '0' => some '\x00'
  | 'a' => some '\x07'
  | 'b' => some '\x08'
  | 't' => some '\t'
  | '\t' => some '\t'
  | 'n' => some '\n'
  | 'v' => some '\x0b'
  | 'f' => some '\x0c'
  | 'r' => some '\r'
  | 'e' => some '\x1b'
  | ' ' => some ' '
  | '"' => some '"'
  | '/' => some '/'
  | '\\' => some '\\'
  | 'N' => some '\x85'
  | '_' => some '\xa0'
  | 'L' => some '\u2028'
  | 'P' => some '\u2029'
  | _ => none

/-- How many digits follow a letter behind a backslash that announces a code point. -/
def codeLength? : Char → Option Nat
  | 'x' => some 2
  | 'u' => some 4
  | 'U' => some 8
  | _ => none

/-- The character of an escape behind its backslash, and how many characters spell it. -/
def escape? : List Char → Option (Char × Nat)
  | [] => none
  | c :: rest =>
    match codeLength? c with
    | none => (letterEscape? c).map (·, 1)
    | some n => do
      let code ← hexNumber? n rest
      if code.isValidChar then return (Char.ofNat code, n + 1) else none

/-- A word of a quoted scalar. -/
structure QuotedWord where
  text : List Char
  behind : Cursor
  /-- Whether the word ends with a line break that a backslash takes away. -/
  escapedBreak : Bool

/-- The word with a character in front of it. -/
def QuotedWord.cons (c : Char) (w : QuotedWord) : QuotedWord := { w with text := c :: w.text }

/-- Reads the characters of a quoted scalar up to the next blank or break, up to the quote that
ends it, or up to a line break behind a backslash. -/
def readQuotedWord? (single : Bool) : (fuel : Nat) → Cursor → Option QuotedWord
  | 0, _ => none
  | fuel + 1, c =>
    match c.rest with
    | [] => some ⟨[], c, false⟩
    | q :: rest =>
      if isSpacing q then some ⟨[], c, false⟩
      else if single then
        if q = '\'' then
          if rest.head? = some '\'' then (readQuotedWord? single fuel (c.skip 2)).map (.cons '\'')
          else some ⟨[], c, false⟩
        else (readQuotedWord? single fuel (c.skip 1)).map (.cons q)
      else if q = '"' then some ⟨[], c, false⟩
      else if q = '\\' then
        if rest.head?.any isBreak then some ⟨[], (c.skip 1).skipBreak, true⟩
        else do
          let (meaning, length) ← escape? rest
          (readQuotedWord? single fuel (c.skip (length + 1))).map (.cons meaning)
      else (readQuotedWord? single fuel (c.skip 1)).map (.cons q)

/-- Reads on a quoted scalar, up to its closing quote; a word takes no more steps than are left for
all words. -/
def readQuoted? (single : Bool) : (fuel : Nat) → Cursor → Option (List Char × Cursor)
  | 0, _ => none
  | fuel + 1, c =>
    if c.atAnyDocumentMark ∨ c.rest = [] then none
    else do
      let word ← readQuotedWord? single (fuel + 1) c
      if word.behind.rest.head? = some (if single then '\'' else '"') then
        return (word.text, word.behind.skip 1)
      else
        let (g, next) ← gap? 0 word.escapedBreak word.behind
        let between := if word.escapedBreak then g.breaks else g.fold
        let (text, behind) ← readQuoted? single fuel next
        return (word.text ++ between ++ text, behind)

/-- Reads a quoted scalar from its opening quote on. -/
def quoted? (single : Bool) (c : Cursor) : Option (List Char × Cursor) :=
  readQuoted? single (c.rest.length + 1) (c.skip 1)

end NetDraft.Yaml
