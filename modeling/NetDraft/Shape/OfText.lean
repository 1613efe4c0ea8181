/-
Reading values of a shape from JSON text.

A mismatch is reported where the reader stands when it gives up: behind a scalar, in front of a
bracket that is not wanted, and for the faults of a whole record behind what looks like its end.
-/
import NetDraft.Json.Reader
import NetDraft.Shape

namespace NetDraft

open Json (Fault Cause faultAt faultIn refuse skipBlanks)

/-- Refuses the value that begins here, which has to be read for its description. -/
def refuseNext {α : Type} (expected : String) : List Char → Except Fault α
  | 'n' :: rest => do
    let rest ← Json.readWord ['u', 'l', 'l'] rest
    refuse (.invalidType .null expected) rest
  | 't' :: rest => do
    let rest ← Json.readWord ['r', 'u', 'e'] rest
    refuse (.invalidType (.flag true) expected) rest
  | 'f' :: rest => do
    let rest ← Json.readWord ['a', 'l', 's', 'e'] rest
    refuse (.invalidType (.flag false) expected) rest
  | '-' :: rest => do
    let (n, rest) ← Json.readNumber true rest
    refuse (.invalidType n.found expected) rest
  | '"' :: rest => do
    let (s, rest) ← Json.readString rest
    refuse (.invalidType (.text s) expected) rest
  | '[' :: rest => refuse (.invalidType .sequence expected) ('[' :: rest)
  | '\x7b' :: rest => refuse (.invalidType .mapping expected) ('\x7b' :: rest)
  | [] => faultAt .endInValue []
  | c :: rest =>
    if c.isDigit then do
      let (n, rest) ← Json.readNumber false (c :: rest)
      refuse (.invalidType n.found expected) rest
    else faultIn .expectedValue (c :: rest)

/-- Reports a mismatch where the rest begins. -/
def placed {α : Type} (rest : List Char) : Except Mismatch α → Except Fault (α × List Char)
  | .ok value => .ok (value, rest)
  | .error m => refuse m rest

/-- Reads a string. -/
def readText (expected : String) (cs : List Char) : Except Fault (String × List Char) :=
  match skipBlanks cs with
  | '"' :: rest => Json.readString rest
  | rest => refuseNext expected rest

/-- Reads a flag. -/
def readFlag (cs : List Char) : Except Fault (Bool × List Char) :=
  match skipBlanks cs with
  | 't' :: rest => do return (true, ← Json.readWord ['r', 'u', 'e'] rest)
  | 'f' :: rest => do return (false, ← Json.readWord ['a', 'l', 's', 'e'] rest)
  | rest => refuseNext Shape.flag.expectation rest

/-- Reads a number and makes something of it. -/
def readNumeral {α : Type} (expected : String) (make : Number → Except Mismatch α)
    (cs : List Char) : Except Fault (α × List Char) :=
  match skipBlanks cs with
  | '-' :: rest => do
    let (n, rest) ← Json.readNumber true rest
    placed rest (make n)
  | rest =>
    if (rest.head?.any Char.isDigit) then do
      let (n, rest) ← Json.readNumber false rest
      placed rest (make n)
    else refuseNext expected rest

/-- Reads a number of any form.  Where an array or an object begins, it is entered before it is
refused. -/
def readAnyNumber (cs : List Char) : Except Fault (Number × List Char) :=
  match skipBlanks cs with
  | '[' :: rest => refuse (.invalidType .sequence Shape.number.expectation) (Json.pastListEnd rest)
  | '\x7b' :: rest =>
    refuse (.invalidType .mapping Shape.number.expectation) (Json.pastObjectEnd rest)
  | rest => readNumeral Shape.number.expectation .ok rest

/-- Reads a name out of several behind the quote or blank where it begins. -/
def readVariant (names : List String) (cs : List Char) :
    Except Fault (Fin names.length × List Char) := do
  let (name, rest) ← readText (Shape.choice names).expectation cs
  placed rest (variantOf names name)

/-- Reads the null that stands for the contents of a name. -/
def readUnit (cs : List Char) : Except Fault (List Char) :=
  match skipBlanks cs with
  | 'n' :: rest => Json.readWord ['u', 'l', 'l'] rest
  | rest => refuseNext "unit" rest

/-- Reads a name out of several, written as a string or as the only key of an object whose value
is null. -/
def readChoice (names : List String) (cs : List Char) :
    Except Fault (Fin names.length × List Char) :=
  match skipBlanks cs with
  | [] => faultAt .endInValue []
  | '"' :: rest => readVariant names ('"' :: rest)
  | '\x7b' :: rest => do
    let (i, rest) ← readVariant names rest
    let rest ← Json.readColon rest
    let rest ← readUnit rest
    match skipBlanks rest with
    | [] => faultAt .endInObject []
    | '\x7d' :: rest => return (i, rest)
    | rest => faultAt .expectedValue rest
  | rest => faultIn .expectedValue rest

/-- Refuses a record behind what looks like its end. -/
def refuseField {α : Type} (m : Mismatch) (cs : List Char) : Except Fault α :=
  refuse m (Json.pastObjectEnd cs)

mutual

/-- Reads a value of a shape. -/
def Shape.read : (s : Shape) → List Char → Except Fault (s.Val × List Char)
  | .text, cs => readText Shape.text.expectation cs
  | .path, cs => readText Shape.path.expectation cs
  | .flag, cs => readFlag cs
  | .word, cs => readNumeral Shape.word.expectation wordOf cs
  | .integer, cs => readNumeral Shape.integer.expectation integerOf cs
  | .number, cs => readAnyNumber cs
  | .choice names, cs => readChoice names cs
  | .optional s, cs =>
    match skipBlanks cs with
    | 'n' :: rest => do return (none, ← Json.readWord ['u', 'l', 'l'] rest)
    | rest => do
      let (value, rest) ← s.read rest
      return (some value, rest)
  | .list s, cs =>
    match skipBlanks cs with
    | '[' :: rest =>
      Json.readItems (fun (items : List s.Val) cs => do
        let (item, cs) ← s.read cs
        return (items ++ [item], cs)) [] rest
    | rest => refuseNext (Shape.list s).expectation rest
  | .dict s, cs =>
    match skipBlanks cs with
    | '\x7b' :: rest =>
      Json.readMembers (fun key table cs => do
        let cs ← Json.readColon cs
        let (value, cs) ← s.read cs
        return (table.insert key value, cs)) Dict.empty rest
    | rest => refuseNext (Shape.dict s).expectation rest
  | .record name closed fields, cs =>
    match skipBlanks cs with
    | '\x7b' :: rest => do
      let (slots, rest) ← Json.readMembers
        (fun key slots cs => fields.readMember fields.names closed key slots cs) fields.blank rest
      placed rest (fields.finish slots)
    | '[' :: rest => do
      let (values, rest) ← fields.readItems (recordExpectation name fields) 0 rest
      return (values, ← Json.closeList rest)
    | rest => refuseNext (Shape.record name closed fields).expectation rest

/-- Reads a member of a record behind its key into its slot. -/
def Fields.readMember (names : List String) (closed : Bool) (key : String) :
    (fields : Fields) → fields.Slots → List Char → Except Fault (fields.Slots × List Char)
  | .nil, slots, cs =>
    if closed then refuseField (.unknownField key names) cs
    else do
      let cs ← Json.readColon cs
      return (slots, ← Json.skipValue cs)
  | .required name s rest, (slot, slots), cs =>
    if name = key then
      match slot with
      | some _ => refuseField (.duplicateField name) cs
      | none => do
        let cs ← Json.readColon cs
        let (value, cs) ← s.read cs
        return ((some value, slots), cs)
    else do
      let (slots, cs) ← rest.readMember names closed key slots cs
      return ((slot, slots), cs)
  | .defaulted name s rest, (slot, slots), cs =>
    if name = key then
      match slot with
      | some _ => refuseField (.duplicateField name) cs
      | none => do
        let cs ← Json.readColon cs
        let (value, cs) ← s.read cs
        return ((some value, slots), cs)
    else do
      let (slots, cs) ← rest.readMember names closed key slots cs
      return ((slot, slots), cs)

/-- Reads the fields from position `i` on from the items of an array. -/
def Fields.readItems (expected : String) (i : Nat) :
    (fields : Fields) → List Char → Except Fault (fields.Val × List Char)
  | .nil, cs => .ok ((), cs)
  | .required _ s rest, cs => do
    let (more, cs) ← Json.nextItem (i == 0) cs
    if more then
      let (value, cs) ← s.read cs
      let (values, cs) ← rest.readItems expected (i + 1) cs
      return ((value, values), cs)
    else refuse (.invalidLength i expected) (Json.pastListEnd cs)
  | .defaulted _ s rest, cs => do
    let (more, cs) ← Json.nextItem (i == 0) cs
    if more then
      let (value, cs) ← s.read cs
      let (values, cs) ← rest.readItems expected (i + 1) cs
      return ((some value, values), cs)
    else
      let (values, cs) ← rest.readItems expected (i + 1) cs
      return ((none, values), cs)

end

/-- Reads a text that holds a value of a shape, or reports what is wrong with it. -/
def Shape.ofText (s : Shape) (text : String) : Except String s.Val :=
  match Json.readAll s.read text.toList with
  | .ok value => .ok value
  | .error f => .error (f.message text.toList)

end NetDraft
