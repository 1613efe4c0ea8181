/-
Walking through the arrays and objects of a text.

What is done with an item or a member is left to the caller, who threads a result of any type
through the walk.  A walk ends behind the closing bracket.
-/
import NetDraft.Json.NumberText
import NetDraft.Json.StringText

namespace NetDraft.Json

/-- The characters that may stand between tokens. -/
def isBlank (c : Char) : Bool := c == ' ' || c == '\t' || c == '\n' || c == '\r'

/-- The text behind its leading blanks. -/
def skipBlanks (cs : List Char) : List Char := cs.dropWhile isBlank

/-- Reads the remaining letters of a word. -/
def readWord : (expected : List Char) → List Char → Except Fault (List Char)
  | [], rest => .ok rest
  | _ :: _, [] => faultAt .endInValue []
  | e :: expected, c :: rest =>
    if c = e then readWord expected rest else faultIn .expectedIdent (c :: rest)

/-! ### Arrays -/

/-- Tells whether another item follows, and returns the text from it or from the closing bracket
on. -/
def nextItem (first : Bool) (cs : List Char) : Except Fault (Bool × List Char) :=
  match skipBlanks cs with
  | [] => faultAt .endInList []
  | ']' :: rest => .ok (false, ']' :: rest)
  | c :: rest =>
    if first then .ok (true, c :: rest)
    else if c = ',' then
      match skipBlanks rest with
      | [] => faultAt .endInValue []
      | ']' :: rest => faultIn .trailingComma (']' :: rest)
      | rest => .ok (true, rest)
    else faultIn .expectedListEnd (c :: rest)

/-- Reads the items of an array, of which there are less than `fuel`, and its closing bracket. -/
def foldItems {σ : Type} (item : σ → List Char → Except Fault (σ × List Char)) :
    (fuel : Nat) → (first : Bool) → σ → List Char → Except Fault (σ × List Char)
  | 0, _, _, cs => faultAt .endInList cs
  | fuel + 1, first, acc, cs => do
    let (more, cs) ← nextItem first cs
    if more then
      let (acc, cs) ← item acc cs
      foldItems item fuel false acc cs
    else return (acc, cs.drop 1)

/-- Reads an array behind its opening bracket. -/
def readItems {σ : Type} (item : σ → List Char → Except Fault (σ × List Char)) (start : σ)
    (cs : List Char) : Except Fault (σ × List Char) :=
  foldItems item (cs.length + 1) true start cs

/-- The text behind what looks like the end of an array, where one is given up. -/
def pastListEnd (cs : List Char) : List Char :=
  match skipBlanks cs with
  | ']' :: rest => rest
  | ',' :: rest => skipBlanks rest
  | rest => rest

/-- Reads the closing bracket of an array from which nothing more is wanted. -/
def closeList (cs : List Char) : Except Fault (List Char) :=
  match skipBlanks cs with
  | [] => faultAt .endInList []
  | ']' :: rest => .ok rest
  | ',' :: rest =>
    match skipBlanks rest with
    | ']' :: rest => faultIn .trailingComma (']' :: rest)
    | rest => faultIn .trailingCharacters rest
  | rest => faultIn .trailingCharacters rest

/-! ### Objects -/

/-- Tells whether another member follows, and returns the text behind the opening quote of its
key, or behind the closing bracket. -/
def nextKey (first : Bool) (cs : List Char) : Except Fault (Bool × List Char) :=
  match skipBlanks cs with
  | [] => faultAt .endInObject []
  | '\x7d' :: rest => .ok (false, rest)
  | c :: rest =>
    if first then
      if c = '"' then .ok (true, rest) else faultIn .keyNotString (c :: rest)
    else if c = ',' then
      match skipBlanks rest with
      | [] => faultAt .endInValue []
      | '"' :: rest => .ok (true, rest)
      | '\x7d' :: rest => faultIn .trailingComma ('\x7d' :: rest)
      | rest => faultIn .keyNotString rest
    else faultIn .expectedObjectEnd (c :: rest)

/-- Reads the colon between a key and its value. -/
def readColon (cs : List Char) : Except Fault (List Char) :=
  match skipBlanks cs with
  | [] => faultAt .endInObject []
  | ':' :: rest => .ok rest
  | rest => faultIn .expectedColon rest

/-- Reads the members of an object, of which there are less than `fuel`, and its closing bracket.
The caller reads on from behind the key. -/
def foldMembers {σ : Type} (member : String → σ → List Char → Except Fault (σ × List Char)) :
    (fuel : Nat) → (first : Bool) → σ → List Char → Except Fault (σ × List Char)
  | 0, _, _, cs => faultAt .endInObject cs
  | fuel + 1, first, acc, cs => do
    let (more, cs) ← nextKey first cs
    if more then
      let (key, cs) ← readString cs
      let (acc, cs) ← member key acc cs
      foldMembers member fuel false acc cs
    else return (acc, cs)

/-- Reads an object behind its opening bracket. -/
def readMembers {σ : Type} (member : String → σ → List Char → Except Fault (σ × List Char))
    (start : σ) (cs : List Char) : Except Fault (σ × List Char) :=
  foldMembers member (cs.length + 1) true start cs

/-- The text behind what looks like the end of an object, where one is given up. -/
def pastObjectEnd (cs : List Char) : List Char :=
  match skipBlanks cs with
  | '\x7d' :: rest => rest
  | rest => rest

end NetDraft.Json
