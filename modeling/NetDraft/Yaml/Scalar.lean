/-
What plain scalars stand for.

A plain scalar is null, a flag, an integer, a float or a text, in this order.  Digits behind a
zero make a text, not a number.  A tag may demand one of these, and quoted and block scalars are
texts unless one does.
-/
import NetDraft.Decimal
import NetDraft.Yaml.Node

namespace NetDraft.Yaml

/-- What a scalar stands for. -/
inductive Meaning where
  | null
  | flag (value : Bool)
  /-- An integer of 64 bits. -/
  | integer (value : Int)
  /-- An integer that needs more than 64 bits, but not more than 128. -/
  | wide (value : Int)
  | float (value : Extended64)
  | text (value : String)
  /-- A text that its tag does not admit, with a description of what would be. -/
  | unfit (value expected : String)
deriving DecidableEq

/-! ### Words -/

/-- Whether a text is one of the words for null. -/
def isNullWord (s : String) : Bool := s = "null" || s = "Null" || s = "NULL" || s = "~"

/-- The flag that a text is a word for. -/
def flagOf? (s : String) : Option Bool :=
  if s = "true" ∨ s = "True" ∨ s = "TRUE" then some true
  else if s = "false" ∨ s = "False" ∨ s = "FALSE" then some false
  else none

/-! ### Integers -/

/-- The value of a digit in a base of at most 16. -/
def digitIn? (base : Nat) (c : Char) : Option Nat :=
  match hexValue? c with
  | some n => if n < base then some n else none
  | none => none

/-- The number of a text of digits only, and of at least one. -/
def digitsIn? (base : Nat) (cs : List Char) : Option Nat :=
  if cs.isEmpty then none
  else cs.foldlM (fun value c => (digitIn? base c).map (value * base + ·)) 0

/-- The number of digits behind the letter that names their base. -/
def basedNatural? : List Char → Option Nat
  | '0' :: 'x' :: digits => digitsIn? 16 digits
  | '0' :: 'o' :: digits => digitsIn? 8 digits
  | '0' :: 'b' :: digits => digitsIn? 2 digits
  | _ => none

/-- Whether a text is a zero with further digits behind it, apart from its sign. -/
def hasIdleZero (cs : List Char) : Bool :=
  match (Decimal.splitSign cs).2 with
  | '0' :: rest => !rest.isEmpty && rest.all Char.isDigit
  | _ => false

/-- The natural number below a bound that a text spells, with or without a plus sign. -/
def natural? (bound : Nat) (cs : List Char) : Option Nat :=
  let unsigned := match cs with
    | '+' :: rest => rest
    | rest => rest
  let decimal := if hasIdleZero cs then none else (digitsIn? 10 unsigned).filter (· < bound)
  (basedNatural? unsigned).filter (· < bound) <|> decimal

/-- The negative number, or zero, down to a bound that a text spells behind a minus sign. -/
def negative? (bound : Nat) : List Char → Option Int
  | '-' :: rest =>
    let decimal :=
      if hasIdleZero ('-' :: rest) then none else (digitsIn? 10 rest).filter (· ≤ bound)
    ((basedNatural? rest).filter (· ≤ bound) <|> decimal).map fun n => -(n : Int)
  | _ => none

/-- The integer that a text spells. -/
def integer? (cs : List Char) : Option Meaning :=
  ((natural? (Nat.pow 2 64) cs).map fun n => .integer n)
    <|> ((negative? (Nat.pow 2 63) cs).map .integer)
    <|> ((natural? (Nat.pow 2 128) cs).map fun n => .wide n)
    <|> ((negative? (Nat.pow 2 127) cs).map .wide)

/-! ### Floats -/

/-- The float that a text spells.  Words for infinity and for no number begin with a point, and a
numeral must not be too large. -/
def float? (s : String) : Option Extended64 :=
  let unsigned := match s.toList with
    | '+' :: rest => String.ofList rest
    | _ => s
  if unsigned = ".inf" ∨ unsigned = ".Inf" ∨ unsigned = ".INF" then some (.infinite false)
  else if s = "-.inf" ∨ s = "-.Inf" ∨ s = "-.INF" then some (.infinite true)
  else if s = ".nan" ∨ s = ".NaN" ∨ s = ".NAN" then some .notANumber
  else if unsigned ≠ s ∧ unsigned.toList.head?.any fun c => c == '+' || c == '-' then none
  else
    match Extended64.ofText? unsigned with
    | some (.finite x) => some (.finite x)
    | _ => none

/-! ### Meanings -/

/-- What a plain scalar without a tag of its own stands for. -/
def plainMeaning (s : String) : Meaning :=
  if s.isEmpty ∨ isNullWord s then .null
  else
    match flagOf? s with
    | some b => .flag b
    | none =>
      match integer? s.toList with
      | some m => m
      | none =>
        if hasIdleZero s.toList then .text s
        else
          match float? s with
          | some x => .float x
          | none => .text s

/-- The standard name of a tag. -/
def standardTag (name : String) : List UInt8 :=
  asciiBytes ("tag:yaml.org,2002:" ++ name).toList

/-- The name of a tag of the document's own: the text behind its exclamation mark, or the mark if
it stands alone. -/
def ownTag? : List UInt8 → Option String
  | [0x21] => some "!"
  | 0x21 :: name => String.fromUTF8? ⟨name.toArray⟩
  | _ => none

/-- What a tagged scalar stands for. -/
def taggedMeaning (tag : List UInt8) (style : Style) (s : String) : Meaning :=
  if tag = standardTag "bool" then
    match flagOf? s with
    | some b => .flag b
    | none => .unfit s "a boolean"
  else if tag = standardTag "int" then
    match integer? s.toList with
    | some m => m
    | none => .unfit s "an integer"
  else if tag = standardTag "float" then
    match float? s with
    | some x => .float x
    | none => .unfit s "a float"
  else if tag = standardTag "null" then
    if isNullWord s then .null else .unfit s "null"
  else if tag.head? = some 0x21 ∧ style = .plain then plainMeaning s
  else .text s

/-- What a scalar stands for. -/
def scalarMeaning (tag : Option (List UInt8)) (style : Style) (s : String) : Meaning :=
  match tag with
  | some tag => taggedMeaning tag style s
  | none => if style = .plain then plainMeaning s else .text s

/-- The tag of the document's own that a node has. -/
def Node.ownTag? : Node → Option String
  | .scalar _ tag _ _ | .sequence _ tag _ | .mapping _ tag _ => tag.bind Yaml.ownTag?
  | .alias _ _ => none

end NetDraft.Yaml
