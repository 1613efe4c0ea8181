/-
Shapes of values on the wire.

A shape says what a value has to look like, and `Shape.Val` is the type of the values it admits.
The readers of the formats follow the shape, so that the fields of an entity, their order, and
which of them may be left out are written down once for all formats.
-/
import NetDraft.Mismatch
import NetDraft.Number
import NetDraft.Dict

namespace NetDraft

mutual

/-- What a value on the wire has to look like. -/
inductive Shape where
  | text
  /-- A text that names a file. -/
  | path
  | flag
  /-- A natural number of 32 bits. -/
  | word
  /-- An integer of 64 bits. -/
  | integer
  | number
  /-- One of several names. -/
  | choice (names : List String)
  /-- A value or nothing. -/
  | optional (value : Shape)
  | list (item : Shape)
  /-- A table from strings to values. -/
  | dict (value : Shape)
  /-- Named fields; other fields are refused by a closed record and skipped by an open one. -/
  | record (name : String) (closed : Bool) (fields : Fields)

/-- The fields of a record, in the order in which they are written. -/
inductive Fields where
  | nil
  | required (name : String) (value : Shape) (rest : Fields)
  /-- A field that may be left out. -/
  | defaulted (name : String) (value : Shape) (rest : Fields)

end

/-- An integer of 64 bits. -/
abbrev Word64 := { i : Int // -0x8000000000000000 ≤ i ∧ i < 0x8000000000000000 }

mutual

/-- The values of a shape. -/
def Shape.Val : Shape → Type
  | .text => String
  | .path => String
  | .flag => Bool
  | .word => UInt32
  | .integer => Word64
  | .number => Number
  | .choice names => Fin names.length
  | .optional s => Option s.Val
  | .list s => List s.Val
  | .dict s => Dict s.Val
  | .record _ _ fields => fields.Val

/-- The values of the fields of a record; those left out have none. -/
def Fields.Val : Fields → Type
  | .nil => Unit
  | .required _ s rest => s.Val × rest.Val
  | .defaulted _ s rest => Option s.Val × rest.Val

end

namespace Fields

/-- The names of the fields. -/
def names : Fields → List String
  | .nil => []
  | .required name _ rest => name :: rest.names
  | .defaulted name _ rest => name :: rest.names

/-- The fields of a record while it is read: those that were found have a value. -/
def Slots : Fields → Type
  | .nil => Unit
  | .required _ s rest => Option s.Val × rest.Slots
  | .defaulted _ s rest => Option s.Val × rest.Slots

/-- No field was found yet. -/
def blank : (fields : Fields) → fields.Slots
  | .nil => ()
  | .required _ _ rest => (none, rest.blank)
  | .defaulted _ _ rest => (none, rest.blank)

end Fields

/-- The value of a required field that was left out, if there can be one: an optional value is
nothing then. -/
def Shape.absent? : (s : Shape) → Option s.Val
  | .optional _ => some none
  | _ => none

/-- The record that was read, if all required fields were found. -/
def Fields.finish : (fields : Fields) → fields.Slots → Except Mismatch fields.Val
  | .nil, () => .ok ()
  | .required name s rest, (slot, slots) =>
    match slot <|> s.absent? with
    | some value => do return (value, ← rest.finish slots)
    | none => .error (.missingField name)
  | .defaulted _ _ rest, (slot, slots) => do return (slot, ← rest.finish slots)

/-- The description of a record with so many fields. -/
def recordExpectation (name : String) (fields : Fields) : String :=
  let count := fields.names.length
  "struct " ++ name ++ " with " ++ Text.decimal count
    ++ (if count = 1 then " element" else " elements")

/-- The description of what a shape wants. -/
def Shape.expectation : Shape → String
  | .text => "a string"
  | .path => "path string"
  | .flag => "a boolean"
  | .word => "u32"
  | .integer => "i64"
  | .number => "a JSON number"
  | .choice _ => "variant identifier"
  | .optional s => s.expectation
  | .list _ => "a sequence"
  | .dict _ => "a map"
  | .record name _ _ => "struct " ++ name

/-- The place of a name among several. -/
def variantOf (names : List String) (name : String) : Except Mismatch (Fin names.length) :=
  if h : names.idxOf name < names.length then .ok ⟨names.idxOf name, h⟩
  else .error (.unknownVariant name names)

/-! ### Numbers

How a number found on the wire fits a shape does not depend on the format. -/

/-- A number as it is described in a refusal. -/
def Number.found : Number → Found
  | .integer i _ => .integer i
  | .float x => .float (.finite x)

/-- A natural number of 32 bits, from a number of integer form. -/
def wordOf : Number → Except Mismatch UInt32
  | .integer i _ =>
    if 0 ≤ i ∧ i < 0x100000000 then .ok (.ofNat i.toNat)
    else .error (.invalidValue (.integer i) Shape.word.expectation)
  | n => .error (.invalidType n.found Shape.word.expectation)

/-- An integer of 64 bits, from a number of integer form. -/
def integerOf : Number → Except Mismatch Word64
  | .integer i _ =>
    if h : -0x8000000000000000 ≤ i ∧ i < 0x8000000000000000 then .ok ⟨i, h⟩
    else .error (.invalidValue (.integer i) Shape.integer.expectation)
  | n => .error (.invalidType n.found Shape.integer.expectation)

end NetDraft
