/-
Strings in double quotes, as statements and JSON texts write them.

The quote and the backslash are escaped by a backslash, and so is every control character: five of
them by a letter, the others by four hexadecimal digits.  All other characters stand for
themselves, so that a quoted string never holds a line break.
-/
namespace NetDraft.Text

/-- A hexadecimal digit in lower case. -/
def hexDigit (n : Nat) : Char := Nat.digitChar (n % 16)

/-- How one character is written between double quotes. -/
def escapeChar (c : Char) : List Char :=
  if c = '"' then ['\\', '"']
  else if c = '\\' then ['\\', '\\']
  else if c = '\n' then ['\\', 'n']
  else if c = '\r' then ['\\', 'r']
  else if c = '\t' then ['\\', 't']
  else if c = '\x08' then ['\\', 'b']
  else if c = '\x0c' then ['\\', 'f']
  else if c.toNat < 0x20 then
    ['\\', 'u', '0', '0', hexDigit (c.toNat / 16), hexDigit c.toNat]
  else [c]

/-- The characters of a string, each as it is written between double quotes. -/
def escape (cs : List Char) : List Char := cs.flatMap escapeChar

/-- The string between double quotes. -/
def quotedChars (cs : List Char) : List Char := '"' :: (escape cs ++ ['"'])

/-- The string between double quotes. -/
def quoted (s : String) : String := String.ofList (quotedChars s.toList)

end NetDraft.Text
