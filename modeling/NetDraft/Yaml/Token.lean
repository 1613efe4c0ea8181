/-
Tokens of YAML texts.
-/
import NetDraft.Yaml.Cursor

namespace NetDraft.Yaml

/-- How a scalar is written. -/
inductive Style where
  | plain
  | singleQuoted
  | doubleQuoted
  | literal
  | folded
deriving DecidableEq, Repr

/-- What a token is.  The names of tags are kept as the bytes that their escapes spell out. -/
inductive TokenKind where
  | versionDirective (major minor : Nat)
  | tagDirective (handle : List Char) (spelled : List UInt8)
  | documentStart
  | documentEnd
  | blockSequenceStart
  | blockMappingStart
  | blockEnd
  | flowSequenceStart
  | flowSequenceEnd
  | flowMappingStart
  | flowMappingEnd
  | blockEntry
  | flowEntry
  | key
  | value
  | alias (name : List Char)
  | anchor (name : List Char)
  | tag (handle : List Char) (suffix : List UInt8)
  | scalar (style : Style) (text : List Char)
  | streamEnd
deriving DecidableEq

/-- A token with the places of its first character and behind its last one. -/
structure Token where
  kind : TokenKind
  start : Mark
  stop : Mark
deriving DecidableEq

end NetDraft.Yaml
