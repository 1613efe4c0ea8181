/-
Files, as far as the program has to do with them.

What a path leads to is asked of `Files`, so that the program can be run on a tree of files in
memory as well as on a disk.  The names of files are taken apart and put together here, by the
separator alone and without a look at any file.
-/
import NetDraft.Text.Join

namespace NetDraft

/-- Access to files by their paths. -/
class Files (m : Type → Type) where
  isDirectory : String → m Bool
  /-- Whether there is a file or a directory. -/
  isThere : String → m Bool
  /-- The text of a file, or the reason why it cannot be read. -/
  readText : String → m (Except String String)
  /-- Makes a text the contents of a file, or gives the reason why this cannot be done. -/
  writeText : String → String → m (Except String Unit)

namespace Files

/-- The names that a path consists of. -/
def names (path : String) : List (List Char) := Text.pieces '/' path.toList

/-- The path that consists of names. -/
def ofNames (names : List (List Char)) : String := String.ofList (Text.joined ['/'] names)

/-- Whether a path begins at the root of all files. -/
def isAbsolute (path : String) : Bool := path.toList.head? = some '/'

/-- A path taken from a directory. -/
def join (directory path : String) : String :=
  if isAbsolute path then path
  else if directory.isEmpty ∨ directory.toList.getLast? = some '/' then directory ++ path
  else directory ++ "/" ++ path

/-- Whether a name means the place where it stands. -/
def isIdle (name : List Char) : Bool := name = [] || name = ['.']

/-- The names without the idle ones at their end; the first name stays. -/
def trimIdle : List (List Char) → List (List Char)
  | [] => []
  | first :: rest => first :: (rest.reverse.dropWhile isIdle).reverse

/-- The directory that a path leads through at last: that of the path, if it leads nowhere, and
the empty path, if it is a single name. -/
def parent (path : String) : String :=
  match trimIdle (names path) with
  | [] | [[]] => "."
  | [_] => ""
  | longer =>
    match trimIdle longer.dropLast with
    | [[]] => "/"
    | directory => ofNames directory

end Files

end NetDraft
