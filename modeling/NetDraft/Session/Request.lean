/-
Requests: the name of a tool and its arguments, as one line of JSON text.

A request is an object, in which other members are skipped, or an array of the name and the
arguments.  The arguments are null if they are left out.
-/
import NetDraft.Shape.OfText

namespace NetDraft

/-- The name of a tool and its arguments. -/
structure Request where
  tool : String
  args : Json

namespace Request

open Json (Fault)

/-- How many brackets may be open at once inside the arguments; the request itself has one. -/
def argsDepth : Nat := Json.depthLimit - 1

/-- A request while it is read. -/
structure Partial where
  tool : Option String
  args : Option Json

/-- Reads a member of a request behind its key. -/
def readMember (key : String) (r : Partial) (cs : List Char) :
    Except Fault (Partial × List Char) :=
  if key = "tool" then
    if r.tool.isSome then refuseField (.duplicateField key) cs
    else do
      let cs ← Json.readColon cs
      let (tool, cs) ← readText Shape.text.expectation cs
      return ({ r with tool := some tool }, cs)
  else if key = "args" then
    if r.args.isSome then refuseField (.duplicateField key) cs
    else do
      let cs ← Json.readColon cs
      let (args, cs) ← Json.readValue argsDepth cs
      return ({ r with args := some args }, cs)
  else do
    let cs ← Json.readColon cs
    return (r, ← Json.skipValue cs)

/-- Reads a request written as an object, behind its opening bracket. -/
def readObject (cs : List Char) : Except Fault (Request × List Char) := do
  let (r, rest) ← Json.readMembers readMember ⟨none, none⟩ cs
  match r.tool with
  | some tool => return (⟨tool, r.args.getD .null⟩, rest)
  | none => Json.refuse (.missingField "tool") rest

/-- Reads a request written as an array, behind its opening bracket. -/
def readArray (cs : List Char) : Except Fault (Request × List Char) := do
  let (more, cs) ← Json.nextItem true cs
  if more then
    let (tool, cs) ← readText Shape.text.expectation cs
    let (more, cs) ← Json.nextItem false cs
    if more then
      let (args, cs) ← Json.readValue argsDepth cs
      return (⟨tool, args⟩, ← Json.closeList cs)
    else return (⟨tool, .null⟩, ← Json.closeList cs)
  else
    Json.refuse (.invalidLength 0 "struct Request with 2 elements") (Json.pastListEnd cs)

/-- Reads a request. -/
def read (cs : List Char) : Except Fault (Request × List Char) :=
  match Json.skipBlanks cs with
  | '\x7b' :: rest => readObject rest
  | '[' :: rest => readArray rest
  | rest => refuseNext "struct Request" rest

/-- The request of a line, or a report of what is wrong with the line. -/
def ofLine (line : String) : Except String Request :=
  match Json.readAll read line.toList with
  | .ok request => .ok request
  | .error fault => .error (fault.message line.toList)

end Request

end NetDraft
