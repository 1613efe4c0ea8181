/-
Strings in messages, with everything that a reader would not see written as an escape.
-/
import NetDraft.Text.CodeRange
import NetDraft.Text.Visible.Table

namespace NetDraft.Text

/-- Whether a character can be shown as it stands. -/
def isVisible (c : Char) : Bool :=
  if c.toNat < 0x20 then false
  else if c.toNat < 0x7f then true
  else !inRanges extendingRanges c && !inRanges blindRanges c

/-- How one character is shown between double quotes. -/
def showChar (c : Char) : List Char :=
  if c = '\x00' then ['\\', '0']
  else if c = '\t' then ['\\', 't']
  else if c = '\r' then ['\\', 'r']
  else if c = '\n' then ['\\', 'n']
  else if c = '\\' ∨ c = '"' then ['\\', c]
  else if isVisible c then [c]
  else '\\' :: 'u' :: '\x7b' :: (Nat.toDigits 16 c.toNat ++ ['\x7d'])

/-- The string between double quotes, as messages show it. -/
def shown (s : String) : String :=
  String.ofList ('"' :: (s.toList.flatMap showChar ++ ['"']))

end NetDraft.Text
