/-
Scripts: the lines that make the simulator build a topology.
-/
import NetDraft.Sha256
import NetDraft.Statement

namespace NetDraft

/-- A script is a list of lines. -/
structure Script where
  lines : List String
deriving DecidableEq

namespace Script

/-- The only line of the script for a topology with nothing in it. -/
def emptyLine : String := "// Empty topology: nothing to build"

/-- One line for each entity of a topology, or a single comment if there is none. -/
def ofTopology (t : Topology) : Script :=
  match t.statements.map Statement.render with
  | [] => ⟨[emptyLine]⟩
  | lines => ⟨lines⟩

/-- The lines with line breaks between them. -/
def text (s : Script) : String :=
  String.ofList (Text.joined ['\n'] (s.lines.map String.toList))

/-- The contents of a file that holds the script: every line ends with a line break. -/
def fileText (s : Script) : String := s.text ++ "\n"

/-- Whether the script only says that there is nothing to build. -/
def isEmptyTopology (s : Script) : Bool := s.lines == [emptyLine]

/-- How many statements the script has. -/
def statementCount (s : Script) : Nat :=
  if s.isEmptyTopology then 0 else s.lines.length

/-- The SHA-256 digest of the lines, each with its line break. -/
def hash (s : Script) : String :=
  Sha256.hex (s.lines.flatMap fun line => line.toUTF8.toList ++ [0x0a])

/-- The first eight digits of the digest. -/
def shortHash (s : Script) : String := String.ofList (s.hash.toList.take 8)

end Script

end NetDraft
