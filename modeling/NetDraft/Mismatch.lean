/-
Why a value is refused where a value of a certain shape is wanted.

The reasons are the same for every format that values are read from.  Formats differ in how they
speak of null and of numbers with a fraction, and hand over a `Wording` for it.
-/
import NetDraft.Binary64
import NetDraft.Text.Join
import NetDraft.Text.Visible

namespace NetDraft

/-- What was found where something else was wanted. -/
inductive Found where
  | null
  | flag (value : Bool)
  | integer (value : Int)
  | float (value : Extended64)
  | text (value : String)
  | sequence
  | mapping
  /-- A value with a tag of its own. -/
  | tagged
  /-- Nothing at all. -/
  | absent
deriving DecidableEq

/-- Why a value is refused. -/
inductive Mismatch where
  | invalidType (found : Found) (expected : String)
  | invalidValue (found : Found) (expected : String)
  | invalidLength (length : Nat) (expected : String)
  | unknownField (name : String) (known : List String)
  | duplicateField (name : String)
  | missingField (name : String)
  | unknownVariant (name : String) (known : List String)
  /-- A number that is not finite. -/
  | notFinite
  /-- The text ends where a value is wanted. -/
  | endOfText
deriving DecidableEq

/-- How a format speaks of null and of numbers with a fraction. -/
structure Wording where
  null : String
  float : Extended64 → String

/-- A text between backquotes. -/
def backquoted (s : String) : String := "\x60" ++ s ++ "\x60"

/-- A choice of names. -/
def choiceOf : List String → String
  | [] => "none"
  | [a] => backquoted a
  | [a, b] => backquoted a ++ " or " ++ backquoted b
  | names => "one of " ++ ", ".intercalate (names.map backquoted)

/-- The description of what was found. -/
def Found.describe (w : Wording) : Found → String
  | null => w.null
  | flag true => "boolean " ++ backquoted "true"
  | flag false => "boolean " ++ backquoted "false"
  | integer i => "integer " ++ backquoted (String.ofList (Text.signedDigits i))
  | float x => "floating point " ++ backquoted (w.float x)
  | text s => "string " ++ Text.shown s
  | sequence => "sequence"
  | mapping => "map"
  | tagged => "enum"
  | absent => "Option value"

/-- The words in which a refusal is reported. -/
def Mismatch.message (w : Wording) : Mismatch → String
  | invalidType found expected =>
    "invalid type: " ++ found.describe w ++ ", expected " ++ expected
  | invalidValue found expected =>
    "invalid value: " ++ found.describe w ++ ", expected " ++ expected
  | invalidLength length expected =>
    "invalid length " ++ Text.decimal length ++ ", expected " ++ expected
  | unknownField name known =>
    "unknown field " ++ backquoted name ++ ", expected " ++ choiceOf known
  | duplicateField name => "duplicate field " ++ backquoted name
  | missingField name => "missing field " ++ backquoted name
  | unknownVariant name known =>
    "unknown variant " ++ backquoted name ++ ", expected " ++ choiceOf known
  | notFinite => "not a JSON number"
  | endOfText => "EOF while parsing a value"

end NetDraft
