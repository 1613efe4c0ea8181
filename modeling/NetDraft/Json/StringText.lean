/-
Reading strings between double quotes.

Characters outside the first plane are escaped as two surrogates, which must stand next to each
other.  Escapes are measured in bytes: four bytes follow `\u`, whatever they are.
-/
import NetDraft.Json.Fault

namespace NetDraft.Json

/-- The value of a hexadecimal digit of either case. -/
def hexValue? (c : Char) : Option Nat :=
  if '0' ≤ c ∧ c ≤ '9' then some (c.toNat - '0'.toNat)
  else if 'a' ≤ c ∧ c ≤ 'f' then some (c.toNat - 'a'.toNat + 10)
  else if 'A' ≤ c ∧ c ≤ 'F' then some (c.toNat - 'A'.toNat + 10)
  else none

/-- The number of the four hexadecimal digits of an escape. -/
def hexFour? : List Char → Option (Nat × List Char)
  | a :: b :: c :: d :: rest => do
    let a ← hexValue? a
    let b ← hexValue? b
    let c ← hexValue? c
    let d ← hexValue? d
    return (((a * 16 + b) * 16 + c) * 16 + d, rest)
  | _ => none

/-- Reads the four digits of an escape. -/
def readHexFour (cs : List Char) : Except Fault (Nat × List Char) :=
  match hexFour? cs with
  | some found => .ok found
  | none =>
    if byteSize cs < 4 then faultAt .endInString []
    else .error ⟨.invalidEscape, cs, 4⟩

/-- Whether a number stands for the first half of a character outside the first plane. -/
def isLeading (n : Nat) : Bool := 0xd800 ≤ n && n ≤ 0xdbff

/-- Whether a number stands for the second half of a character outside the first plane. -/
def isTrailing (n : Nat) : Bool := 0xdc00 ≤ n && n ≤ 0xdfff

/-- The character of two halves. -/
def joinSurrogates (leading trailing : Nat) : Char :=
  Char.ofNat ((leading - 0xd800) * 0x400 + (trailing - 0xdc00) + 0x10000)

/-- Reads the second half of a character behind its first half. -/
def readTrailing (leading : Nat) : List Char → Except Fault (Char × List Char)
  | [] => faultAt .endInString []
  | '\\' :: [] => faultAt .endInString []
  | '\\' :: 'u' :: rest => do
    let (trailing, rest) ← readHexFour rest
    if isTrailing trailing then return (joinSurrogates leading trailing, rest)
    else faultAt .loneSurrogate rest
  | '\\' :: rest => faultIn .unfinishedSurrogate rest
  | rest => faultIn .unfinishedSurrogate rest

/-- Reads an escape behind its `\u`. -/
def readUnicodeEscape (cs : List Char) : Except Fault (Char × List Char) := do
  let (n, rest) ← readHexFour cs
  if isTrailing n then faultAt .loneSurrogate rest
  else if isLeading n then readTrailing n rest
  else return (Char.ofNat n, rest)

/-- The characters that a backslash and one letter stand for. -/
def shortEscape? : Char → Option Char
  | '"' => some '"'
  | '\\' => some '\\'
  | '/' => some '/'
  | 'b' => some '\x08'
  | 'f' => some '\x0c'
  | 'n' => some '\n'
  | 'r' => some '\r'
  | 't' => some '\t'
  | _ => none

/-- Reads an escape behind its backslash. -/
def readEscape : List Char → Except Fault (Char × List Char)
  | [] => faultAt .endInString []
  | 'u' :: rest => readUnicodeEscape rest
  | c :: rest =>
    match shortEscape? c with
    | some meaning => .ok (meaning, rest)
    | none => faultIn .invalidEscape (c :: rest)

/-- Reads the characters of a string, of which there are at most `fuel`, and its closing quote. -/
def readStringChars : (fuel : Nat) → List Char → Except Fault (List Char × List Char)
  | _, [] => faultAt .endInString []
  | 0, cs => faultAt .endInString cs
  | fuel + 1, c :: rest =>
    if c = '"' then .ok ([], rest)
    else if c = '\\' then do
      let (meaning, rest) ← readEscape rest
      let (more, rest) ← readStringChars fuel rest
      return (meaning :: more, rest)
    else if c.toNat < 0x20 then faultIn .controlCharacter (c :: rest)
    else do
      let (more, rest) ← readStringChars fuel rest
      return (c :: more, rest)

/-- Reads a string behind its opening quote. -/
def readString (cs : List Char) : Except Fault (String × List Char) := do
  let (chars, rest) ← readStringChars cs.length cs
  return (String.ofList chars, rest)

/-! ### Skipping

A string that nobody wants is skipped.  What its escapes stand for does not matter then. -/

/-- Skips an escape behind its backslash. -/
def skipEscape : List Char → Except Fault (List Char)
  | [] => faultAt .endInString []
  | 'u' :: rest => do
    let (_, rest) ← readHexFour rest
    return rest
  | c :: rest =>
    if (shortEscape? c).isSome then .ok rest else faultIn .invalidEscape (c :: rest)

/-- Skips the characters of a string, of which there are at most `fuel`, and its closing quote. -/
def skipStringChars : (fuel : Nat) → List Char → Except Fault (List Char)
  | _, [] => faultAt .endInString []
  | 0, cs => faultAt .endInString cs
  | fuel + 1, c :: rest =>
    if c = '"' then .ok rest
    else if c = '\\' then do
      let rest ← skipEscape rest
      skipStringChars fuel rest
    else if c.toNat < 0x20 then faultAt .controlCharacter (c :: rest)
    else skipStringChars fuel rest

/-- Skips a string behind its opening quote. -/
def skipString (cs : List Char) : Except Fault (List Char) := skipStringChars cs.length cs

end NetDraft.Json
