/-
The text of block scalars.

A block scalar is a run of lines that are indented further than what contains it.  A literal one
keeps its line breaks.  In a folded one a break between two lines reads as a space, unless one of
them begins with a blank.  What becomes of the breaks at its end is said in its header.
-/
import NetDraft.Yaml.Token

namespace NetDraft.Yaml

/-- What becomes of the line breaks at the end of a block scalar. -/
inductive Chomping where
  /-- None of them counts. -/
  | strip
  /-- The first one counts. -/
  | clip
  /-- All of them count. -/
  | keep
deriving DecidableEq

/-- The header of a block scalar behind its indicator. -/
structure BlockHeader where
  chomping : Chomping
  /-- By how many columns the lines are indented further, if that is said. -/
  increment : Option Nat

/-- Reads how the end of a block scalar is treated. -/
def chomping? : List Char → Option Chomping
  | '+' :: _ => some .keep
  | '-' :: _ => some .strip
  | _ => none

/-- Reads the increment of the indentation, which is not zero. -/
def increment? : List Char → Option (Option Nat)
  | c :: _ =>
    if c.isDigit then if c = '0' then none else some (some (c.toNat - '0'.toNat))
    else some none
  | [] => some none

/-- Reads the header of a block scalar; its two parts may stand in either order. -/
def blockHeader? (c : Cursor) : Option (BlockHeader × Cursor) :=
  match chomping? c.rest with
  | some chomping => do
    let c := c.skip 1
    let increment ← increment? c.rest
    return (⟨chomping, increment⟩, if increment.isSome then c.skip 1 else c)
  | none => do
    let increment ← increment? c.rest
    let c := if increment.isSome then c.skip 1 else c
    match increment, chomping? c.rest with
    | some _, some chomping => return (⟨chomping, increment⟩, c.skip 1)
    | _, _ => return (⟨.clip, increment⟩, c)

/-- The cursor behind blanks, a comment and the line break that ends the header. -/
def endHeader? (c : Cursor) : Option Cursor :=
  let c := (c.skipWhile isBlank).skipComment
  match c.rest with
  | [] => some c
  | b :: _ => if isBreak b then some c.skipBreak else none

/-- The lines without text in front of the next line of a block scalar. -/
structure EmptyLines where
  breaks : List Char
  /-- The furthest column of them. -/
  widest : Nat
  /-- The place behind the last break. -/
  stop : Mark
  behind : Cursor

/-- Reads lines without text, indented to the column `indent` at most, or to any column if it is
not known yet. -/
def readEmptyLines? (indent : Option Nat) : (fuel : Nat) → EmptyLines → Option EmptyLines
  | 0, lines => some lines
  | fuel + 1, lines =>
    let c := lines.behind
    let spaces := (c.rest.takeWhile (· == ' ')).length
    let c := c.skip (match indent with
      | some column => min spaces (column - c.mark.column)
      | none => spaces)
    let lines := { lines with widest := max lines.widest c.mark.column, behind := c }
    if c.rest.head? = some '\t' ∧ indent.all (c.mark.column < ·) then none
    else
      match c.takeBreak? with
      | some (b, c) =>
        readEmptyLines? indent fuel
          { lines with breaks := lines.breaks ++ [b], stop := c.mark, behind := c }
      | none => some lines

/-- Reads the lines without text that begin here. -/
def emptyLines? (indent : Option Nat) (c : Cursor) : Option EmptyLines :=
  readEmptyLines? indent (c.rest.length + 1) ⟨[], 0, c.mark, c⟩

/-- Where a block scalar is left behind a line: the break that ended the line, the breaks behind
that, and whether the line begins with a blank. -/
structure LineEnd where
  lastBreak : List Char
  breaks : List Char
  blankLed : Bool
  stop : Mark
  behind : Cursor

/-- The text between two lines of a block scalar. -/
def LineEnd.between (literal : Bool) (e : LineEnd) (blankLed : Bool) : List Char :=
  if !literal ∧ e.lastBreak = ['\n'] ∧ !e.blankLed ∧ !blankLed then
    if e.breaks.isEmpty then [' '] else e.breaks
  else e.lastBreak ++ e.breaks

/-- Reads the lines of a block scalar that begin at the column `indent`, behind another line;
returns their text and the end of the last one. -/
def readBlockLines? (literal : Bool) (indent : Nat) :
    (fuel : Nat) → LineEnd → Option (List Char × LineEnd)
  | 0, e => some ([], e)
  | fuel + 1, e =>
    let c := e.behind
    if c.mark.column ≠ indent ∨ c.rest = [] then some ([], e)
    else do
      let blankLed := c.rest.head?.any isBlank
      let line := c.rest.takeWhile fun c => !isBreak c
      let c := c.skip line.length
      let (lastBreak, c) := match c.takeBreak? with
        | some (ended, c) => ([ended], c)
        | none => ([], c)
      let lines ← emptyLines? (some indent) c
      let (text, last) ← readBlockLines? literal indent fuel
        ⟨lastBreak, lines.breaks, blankLed, lines.stop, lines.behind⟩
      return (e.between literal blankLed ++ line ++ text, last)

/-- Reads a block scalar from its indicator on, inside a block at the column `outer`; returns its
text, the place behind it and the cursor behind it. -/
def block? (literal : Bool) (outer : Int) (c : Cursor) : Option (List Char × Mark × Cursor) := do
  let (header, c) ← blockHeader? (c.skip 1)
  let c ← endHeader? c
  let stated := header.increment.map fun n => (max outer 0).toNat + n
  let lines ← emptyLines? stated c
  let indent := stated.getD (max lines.widest (max (outer + 1).toNat 1))
  let (text, last) ← readBlockLines? literal indent (c.rest.length + 1)
    ⟨[], lines.breaks, false, lines.stop, lines.behind⟩
  let ending := match header.chomping with
    | .strip => []
    | .clip => last.lastBreak
    | .keep => last.lastBreak ++ last.breaks
  return (text ++ ending, last.stop, last.behind)

end NetDraft.Yaml
