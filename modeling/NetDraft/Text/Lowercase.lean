/-
Lower case in the whole of Unicode.

Nearly every character has one lower case form of its own.  The exceptions are the capital I with
a dot, whose form has two characters, and the capital sigma, whose form depends on its neighbours:
at the end of a word it is `ς`, elsewhere `σ`.  A word ends at a sigma if, apart from characters
that do not interrupt a word, a letter stands in front of it and none behind it.
-/
import NetDraft.Text.CodeRange
import NetDraft.Text.Lowercase.Table

namespace NetDraft.Text

/-- The lower case form of a character that does not depend on its neighbours. -/
def lowercaseChar (c : Char) : List Char :=
  if c = 'İ' then ['i', '\u0307']
  else
    match lowercaseRuns.find? fun run =>
        run.1 ≤ c.toNat && c.toNat ≤ run.2.1 && (c.toNat - run.1) % run.2.2.1 == 0 with
    | some (_, _, _, distance) => [Char.ofNat (c.toNat + distance).toNat]
    | none => [c]

/-- Whether a letter follows, characters that do not interrupt a word aside. -/
def letterFollows (cs : List Char) : Bool :=
  match cs.dropWhile (inRanges caseIgnorableRanges) with
  | c :: _ => inRanges casedRanges c
  | [] => false

/-- The lower case form of what follows `before`, which is given backwards. -/
def lowercaseAfter (before : List Char) : List Char → List Char
  | [] => []
  | c :: rest =>
    let form :=
      if c = 'Σ' then
        if letterFollows before && !letterFollows rest then ['ς'] else ['σ']
      else lowercaseChar c
    form ++ lowercaseAfter (c :: before) rest

/-- The lower case form of a string. -/
def lowercase (s : String) : String := String.ofList (lowercaseAfter [] s.toList)

end NetDraft.Text
