/-
Reading values of any form.
-/
import NetDraft.Json
import NetDraft.Json.Skip

namespace NetDraft.Json

/-- How many brackets may be open at once. -/
def depthLimit : Nat := 127

/-- Reads a value inside which `depth` brackets may be open at once.  Of members with the same key
the last one stays, and members are kept in ascending order of their keys. -/
def readValue (depth : Nat) (cs : List Char) : Except Fault (Json × List Char) :=
  match skipBlanks cs with
  | [] => faultAt .endInValue []
  | 'n' :: rest => do return (.null, ← readWord ['u', 'l', 'l'] rest)
  | 't' :: rest => do return (.bool true, ← readWord ['r', 'u', 'e'] rest)
  | 'f' :: rest => do return (.bool false, ← readWord ['a', 'l', 's', 'e'] rest)
  | '-' :: rest => do
    let (n, rest) ← readNumber true rest
    return (.number n, rest)
  | '"' :: rest => do
    let (s, rest) ← readString rest
    return (.string s, rest)
  | '[' :: rest =>
    match depth with
    | 0 => faultIn .tooDeep ('[' :: rest)
    | depth + 1 => do
      let (items, rest) ← readItems (fun items cs => do
        let (item, cs) ← readValue depth cs
        return (items ++ [item], cs)) [] rest
      return (.array items, rest)
  | '\x7b' :: rest =>
    match depth with
    | 0 => faultIn .tooDeep ('\x7b' :: rest)
    | depth + 1 => do
      let (members, rest) ← readMembers (fun key members cs => do
        let cs ← readColon cs
        let (value, cs) ← readValue depth cs
        return (insertEntry key value members, cs)) [] rest
      return (.object members, rest)
  | c :: rest =>
    if c.isDigit then do
      let (n, rest) ← readNumber false (c :: rest)
      return (.number n, rest)
    else faultIn .expectedValue (c :: rest)

/-- Reads a whole text that holds one value and blanks around it. -/
def readAll {α : Type} (read : List Char → Except Fault (α × List Char)) (cs : List Char) :
    Except Fault α := do
  let (a, rest) ← read cs
  match skipBlanks rest with
  | [] => return a
  | rest => faultIn .trailingCharacters rest

end NetDraft.Json
