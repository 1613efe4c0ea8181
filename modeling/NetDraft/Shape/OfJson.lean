/-
Reading values of a shape from JSON values.

Members are taken in the order in which they stand; a missing field is noticed at the end.  A
record may also be given as an array of its fields, of which the last ones may be left out if they
may be left out at all.
-/
import NetDraft.Json
import NetDraft.Shape

namespace NetDraft

/-- A value as it is described in a refusal. -/
def Json.found : Json → Found
  | .null => .null
  | .bool b => .flag b
  | .number n => n.found
  | .string s => .text s
  | .array _ => .sequence
  | .object _ => .mapping

/-- Refuses a value. -/
def Json.mismatch {α : Type} (j : Json) (expected : String) : Except Mismatch α :=
  .error (.invalidType j.found expected)

/-- Reads a name out of several, written as a string or as the only key of an object whose value
is null. -/
def variantOfJson (names : List String) : Json → Except Mismatch (Fin names.length)
  | .string name => variantOf names name
  | .object [(name, value)] => do
    let i ← variantOf names name
    match value with
    | .null => return i
    | other => other.mismatch "unit"
  | .object _ => .error (.invalidValue .mapping "map with a single key")
  | other => other.mismatch "string or map"

mutual

/-- Reads a value of a shape. -/
def Shape.ofJson : (s : Shape) → Json → Except Mismatch s.Val
  | .text, j =>
    match j with
    | .string text => .ok text
    | other => other.mismatch Shape.text.expectation
  | .path, j =>
    match j with
    | .string text => .ok text
    | other => other.mismatch Shape.path.expectation
  | .flag, j =>
    match j with
    | .bool b => .ok b
    | other => other.mismatch Shape.flag.expectation
  | .word, j =>
    match j with
    | .number n => wordOf n
    | other => other.mismatch Shape.word.expectation
  | .integer, j =>
    match j with
    | .number n => integerOf n
    | other => other.mismatch Shape.integer.expectation
  | .number, j =>
    match j with
    | .number n => .ok n
    | other => other.mismatch Shape.number.expectation
  | .choice names, j => variantOfJson names j
  | .optional s, j =>
    match j with
    | .null => .ok none
    | other => (s.ofJson other).map some
  | .list s, j =>
    match j with
    | .array items => items.mapM s.ofJson
    | other => other.mismatch (Shape.list s).expectation
  | .dict s, j =>
    match j with
    | .object members =>
      members.foldlM (fun table (key, value) => do return table.insert key (← s.ofJson value))
        Dict.empty
    | other => other.mismatch (Shape.dict s).expectation
  | .record name closed fields, j =>
    match j with
    | .object members => do
      let slots ← members.foldlM (fun slots (key, value) =>
        fields.putJson fields.names closed key value slots) fields.blank
      fields.finish slots
    | .array items => do
      let values ← fields.ofItems (recordExpectation name fields) 0 items
      if fields.names.length < items.length then
        .error (.invalidLength items.length "fewer elements in array")
      else return values
    | other => other.mismatch (Shape.record name closed fields).expectation

/-- Reads a member of a record into its slot; `names` are those of all fields of the record. -/
def Fields.putJson (names : List String) (closed : Bool) (key : String) (value : Json) :
    (fields : Fields) → fields.Slots → Except Mismatch fields.Slots
  | .nil, slots => if closed then .error (.unknownField key names) else .ok slots
  | .required name s rest, (slot, slots) =>
    if name = key then
      match slot with
      | some _ => .error (.duplicateField name)
      | none => do return (some (← s.ofJson value), slots)
    else do return (slot, ← rest.putJson names closed key value slots)
  | .defaulted name s rest, (slot, slots) =>
    if name = key then
      match slot with
      | some _ => .error (.duplicateField name)
      | none => do return (some (← s.ofJson value), slots)
    else do return (slot, ← rest.putJson names closed key value slots)

/-- Reads the fields from position `i` on from the items of an array. -/
def Fields.ofItems (expected : String) (i : Nat) :
    (fields : Fields) → List Json → Except Mismatch fields.Val
  | .nil, _ => .ok ()
  | .required _ s rest, items =>
    match items with
    | [] => .error (.invalidLength i expected)
    | item :: items => do return (← s.ofJson item, ← rest.ofItems expected (i + 1) items)
  | .defaulted _ s rest, items =>
    match items with
    | [] => do return (none, ← rest.ofItems expected (i + 1) [])
    | item :: items => do
      return (some (← s.ofJson item), ← rest.ofItems expected (i + 1) items)

end

end NetDraft
