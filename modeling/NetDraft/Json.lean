/-
JSON values and their compact and indented texts.

An object is a list of members in the order in which they are written.  `sortKeys` gives the form
in which answers are sent, with the members of every object in ascending order of their keys.
-/
import NetDraft.Dict
import NetDraft.Number
import NetDraft.Text.Join
import NetDraft.Text.Quoted

namespace NetDraft

/-- A JSON value. -/
inductive Json where
  | null
  | bool (value : Bool)
  | number (value : Number)
  | string (value : String)
  | array (items : List Json)
  | object (members : List (String × Json))

namespace Json

/-- A natural number. -/
def ofNat (n : Nat) : Json := .number (.ofNat n)

/-! ### Text -/

mutual

/-- The text without any blank. -/
def chars : Json → List Char
  | .null => "null".toList
  | .bool true => "true".toList
  | .bool false => "false".toList
  | .number n => n.text.toList
  | .string s => Text.quotedChars s.toList
  | .array items => '[' :: (Text.joined [','] (itemChars items) ++ [']'])
  | .object members => '{' :: (Text.joined [','] (memberChars members) ++ ['}'])

/-- The texts of the items of an array. -/
def itemChars : List Json → List (List Char)
  | [] => []
  | item :: rest => item.chars :: itemChars rest

/-- The texts of the members of an object. -/
def memberChars : List (String × Json) → List (List Char)
  | [] => []
  | (key, value) :: rest =>
    (Text.quotedChars key.toList ++ ':' :: value.chars) :: memberChars rest

end

/-- The text without any blank. -/
def compact (j : Json) : String := String.ofList j.chars

/-- A line break and the blanks of an indentation depth. -/
def newLine (depth : Nat) : List Char := '\n' :: List.replicate (2 * depth) ' '

/-- Texts between brackets, each on a line of its own at the given depth. -/
def indentedBlock (opening closing : Char) (depth : Nat) : List (List Char) → List Char
  | [] => [opening, closing]
  | texts =>
    opening :: (newLine (depth + 1) ++ Text.joined (',' :: newLine (depth + 1)) texts
      ++ newLine depth ++ [closing])

mutual

/-- The text with two blanks for each depth of indentation. -/
def indentedChars (depth : Nat) : Json → List Char
  | .array items => indentedBlock '[' ']' depth (indentedItems (depth + 1) items)
  | .object members => indentedBlock '{' '}' depth (indentedMembers (depth + 1) members)
  | scalar => scalar.chars

/-- The indented texts of the items of an array. -/
def indentedItems (depth : Nat) : List Json → List (List Char)
  | [] => []
  | item :: rest => item.indentedChars depth :: indentedItems depth rest

/-- The indented texts of the members of an object. -/
def indentedMembers (depth : Nat) : List (String × Json) → List (List Char)
  | [] => []
  | (key, value) :: rest =>
    (Text.quotedChars key.toList ++ ':' :: ' ' :: value.indentedChars depth)
      :: indentedMembers depth rest

end

/-- The text with two blanks for each depth of indentation. -/
def indented (j : Json) : String := String.ofList (j.indentedChars 0)

/-! ### Order of members -/

mutual

/-- The value with the members of every object in ascending order of their keys. -/
def sortKeys : Json → Json
  | .array items => .array (sortItems items)
  | .object members => .object (sortMembers members)
  | scalar => scalar

/-- `sortKeys` on every item. -/
def sortItems : List Json → List Json
  | [] => []
  | item :: rest => item.sortKeys :: sortItems rest

/-- `sortKeys` on every value, and the members in ascending order of their keys. -/
def sortMembers : List (String × Json) → List (String × Json)
  | [] => []
  | (key, value) :: rest => insertEntry key value.sortKeys (sortMembers rest)

end

end Json

end NetDraft
