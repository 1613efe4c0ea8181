/-
Skipping a value that nobody wants.

Such a value may be nested to any depth.  The brackets that are open are kept in a list.
-/
import NetDraft.Json.Container

namespace NetDraft.Json

/-- An open bracket. -/
inductive Bracket where
  | list
  | object
deriving DecidableEq

namespace Bracket

/-- The character that closes it. -/
def closing : Bracket → Char
  | list => ']'
  | object => '\x7d'

/-- The fault of a text that ends inside. -/
def atEnd : Bracket → Cause
  | list => .endInList
  | object => .endInObject

/-- The fault of something else where it could be closed. -/
def unclosed : Bracket → Cause
  | list => .expectedListEnd
  | object => .expectedObjectEnd

end Bracket

/-- Reads closing brackets as long as some stand there and fit, and then a comma, if a value stood
in front of it; returns the brackets still open. -/
def skipClosing (afterValue : Bool) :
    List Bracket → List Char → Except Fault (List Bracket × List Char)
  | [], cs => .ok ([], cs)
  | b :: outer, cs =>
    match skipBlanks cs with
    | [] => faultAt b.atEnd []
    | c :: rest =>
      if c = ',' ∧ afterValue then .ok (b :: outer, rest)
      else if c = b.closing then skipClosing true outer rest
      else if afterValue then faultIn b.unclosed (c :: rest)
      else .ok (b :: outer, c :: rest)

/-- Skips a scalar, or opens a bracket and tells which. -/
def skipScalarOrOpen (cs : List Char) : Except Fault (Option Bracket × List Char) :=
  match skipBlanks cs with
  | [] => faultAt .endInValue []
  | 'n' :: rest => do return (none, ← readWord ['u', 'l', 'l'] rest)
  | 't' :: rest => do return (none, ← readWord ['r', 'u', 'e'] rest)
  | 'f' :: rest => do return (none, ← readWord ['a', 'l', 's', 'e'] rest)
  | '-' :: rest => do return (none, ← skipNumber rest)
  | '"' :: rest => do return (none, ← skipString rest)
  | '[' :: rest => .ok (some .list, rest)
  | '\x7b' :: rest => .ok (some .object, rest)
  | c :: rest =>
    if c.isDigit then do return (none, ← skipNumber (c :: rest))
    else faultIn .expectedValue (c :: rest)

/-- Skips a key and its colon. -/
def skipKey (cs : List Char) : Except Fault (List Char) :=
  match skipBlanks cs with
  | [] => faultAt .endInObject []
  | '"' :: rest => do
    let rest ← skipString rest
    readColon rest
  | rest => faultIn .keyNotString rest

/-- Skips what is left of a value inside open brackets, in less than `fuel` steps. -/
def skipInside : (fuel : Nat) → List Bracket → List Char → Except Fault (List Char)
  | 0, _, cs => faultAt .endInValue cs
  | fuel + 1, brackets, cs => do
    let (opened, cs) ← skipScalarOrOpen cs
    let (brackets, cs) ← match opened with
      | some b => skipClosing false (b :: brackets) cs
      | none => skipClosing true brackets cs
    match brackets with
    | [] => return cs
    | .list :: _ => skipInside fuel brackets cs
    | .object :: _ => do
      let cs ← skipKey cs
      skipInside fuel brackets cs

/-- Skips a value. -/
def skipValue (cs : List Char) : Except Fault (List Char) := skipInside (cs.length + 1) [] cs

end NetDraft.Json
