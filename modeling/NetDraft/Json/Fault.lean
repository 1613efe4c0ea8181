/-
Faults of JSON texts and where they are reported.

A reader of JSON text takes the characters that are left and returns those that it leaves.  A
fault remembers what was left when it was found, and how many bytes beyond that it points: one for
a character that was only looked at, or for the bytes of a broken escape.  Line and column are
worked out from that when the fault is reported.
-/
import NetDraft.Mismatch
import NetDraft.Number

namespace NetDraft.Json

/-- What is wrong with a JSON text. -/
inductive Cause where
  | endInValue
  | endInList
  | endInObject
  | endInString
  | expectedColon
  | expectedListEnd
  | expectedObjectEnd
  | expectedIdent
  | expectedValue
  | keyNotString
  | trailingComma
  | trailingCharacters
  | invalidNumber
  | numberOutOfRange
  | invalidEscape
  | loneSurrogate
  | unfinishedSurrogate
  | controlCharacter
  | tooDeep
  | mismatch (m : Mismatch)
deriving DecidableEq

/-- JSON calls null by its name, and writes numbers as it does everywhere. -/
def wording : Wording where
  null := "null"
  float x := x.text Number.layout

/-- The words in which a fault is reported, without its place. -/
def Cause.message : Cause → String
  | endInValue => "EOF while parsing a value"
  | endInList => "EOF while parsing a list"
  | endInObject => "EOF while parsing an object"
  | endInString => "EOF while parsing a string"
  | expectedColon => "expected " ++ backquoted ":"
  | expectedListEnd => "expected " ++ backquoted "," ++ " or " ++ backquoted "]"
  | expectedObjectEnd => "expected " ++ backquoted "," ++ " or " ++ backquoted "\x7d"
  | expectedIdent => "expected ident"
  | expectedValue => "expected value"
  | keyNotString => "key must be a string"
  | trailingComma => "trailing comma"
  | trailingCharacters => "trailing characters"
  | invalidNumber => "invalid number"
  | numberOutOfRange => "number out of range"
  | invalidEscape => "invalid escape"
  | loneSurrogate => "lone leading surrogate in hex escape"
  | unfinishedSurrogate => "unexpected end of hex escape"
  | controlCharacter => "control character (\\u0000-\\u001F) found while parsing a string"
  | tooDeep => "recursion limit exceeded"
  | mismatch m => m.message wording

/-- A fault of a JSON text. -/
structure Fault where
  cause : Cause
  /-- The characters that were left. -/
  rest : List Char
  /-- How many bytes further the fault is reported, if the text has them. -/
  beyond : Nat
deriving DecidableEq

/-- A fault at the end of what was read. -/
def faultAt {α : Type} (cause : Cause) (rest : List Char) : Except Fault α :=
  .error ⟨cause, rest, 0⟩

/-- A fault in the next character. -/
def faultIn {α : Type} (cause : Cause) (rest : List Char) : Except Fault α :=
  .error ⟨cause, rest, 1⟩

/-- A mismatch of a value that ends where the rest begins. -/
def refuse {α : Type} (m : Mismatch) (rest : List Char) : Except Fault α :=
  faultAt (.mismatch m) rest

/-! ### Places -/

/-- The size of a text in bytes. -/
def byteSize (cs : List Char) : Nat := cs.foldl (fun n c => n + c.utf8Size) 0

/-- The line and the column of a byte offset, counted on from the given ones. -/
def placeFrom (line column : Nat) : List Char → Nat → Nat × Nat
  | [], offset => (line, column + offset)
  | c :: rest, offset =>
    if offset < c.utf8Size then (line, column + offset)
    else if c = '\n' then placeFrom (line + 1) 0 rest (offset - 1)
    else placeFrom line (column + c.utf8Size) rest (offset - c.utf8Size)

/-- The line, counted from one, and the number of its bytes up to the fault in a text. -/
def Fault.place (f : Fault) (text : List Char) : Nat × Nat :=
  let size := byteSize text
  placeFrom 1 0 text (min size (size - byteSize f.rest + f.beyond))

/-- The report of a fault in a text, with its place. -/
def Fault.message (f : Fault) (text : List Char) : String :=
  let (line, column) := f.place text
  f.cause.message ++ " at line " ++ Text.decimal line ++ " column " ++ Text.decimal column

end NetDraft.Json
