/-
Writing values of a shape as JSON.

The members of a record stand in the order of its fields.  A field that was left out is left out
again.
-/
import NetDraft.Json
import NetDraft.Shape

namespace NetDraft

mutual

/-- The JSON value of a value of a shape. -/
def Shape.toJson : (s : Shape) → s.Val → Json
  | .text, text => .string text
  | .path, text => .string text
  | .flag, b => .bool b
  | .word, n => .number (.ofNat (UInt32.toNat n))
  | .integer, ⟨i, h⟩ => .number (.integer i ⟨h.1, by omega⟩)
  | .number, n => .number n
  | .choice names, i => .string (names.get i)
  | .optional s, value => (value.map s.toJson).getD .null
  | .list s, items => .array (items.map s.toJson)
  | .dict s, table => .object (table.map s.toJson).entries
  | .record _ _ fields, values => .object (fields.toMembers values)

/-- The members of a record. -/
def Fields.toMembers : (fields : Fields) → fields.Val → List (String × Json)
  | .nil, _ => []
  | .required name s rest, (value, values) => (name, s.toJson value) :: rest.toMembers values
  | .defaulted name s rest, (value, values) =>
    (value.map fun v => (name, s.toJson v)).toList ++ rest.toMembers values

end

end NetDraft
