/-
A tree of files in memory.

The tree stands in a world of which nothing else is known: paths may leave it towards its root and
beyond, where there are directories in which nothing is found.
-/
import NetDraft.Files

namespace NetDraft

/-- What stands at a place of a tree. -/
inductive FileTree.Entry where
  | file (contents : ByteArray)
  | directory

/-- A tree of files, given by what stands at the places below its root.

A place is given by the names that lead to it. -/
structure FileTree where
  entries : List (List (List Char) × FileTree.Entry)

namespace FileTree

/-- The tree with nothing in it. -/
def empty : FileTree := ⟨[]⟩

/-- What stands at a place, if anything does. -/
def entry? (t : FileTree) (place : List (List Char)) : Option Entry :=
  if place = [] then some .directory
  else (t.entries.find? fun e => e.1 = place).map (·.2)

/-- The tree with something else at a place. -/
def set (t : FileTree) (place : List (List Char)) (entry : Entry) : FileTree :=
  ⟨(place, entry) :: t.entries.filter fun e => e.1 ≠ place⟩

/-- The tree with a directory at a place, unless something stands there already. -/
def ensureDirectory (t : FileTree) (place : List (List Char)) : FileTree :=
  if (t.entry? place).isSome then t else t.set place .directory

/-- The tree with a file, or with a directory if the path ends in a separator, and with all the
directories that lead there. -/
def add (t : FileTree) (path : String) (contents : ByteArray) : FileTree :=
  let names := Files.names path
  let place := names.filter fun name => !Files.isIdle name
  let directories := (List.range place.length).map fun n => place.take n
  let t := directories.foldl ensureDirectory t
  if names.getLast? = some [] then t.ensureDirectory place else t.set place (.file contents)

/-! ### Following a path -/

/-- Where a path leads. -/
inductive Target where
  | file (place : List (List Char)) (contents : ByteArray)
  /-- A directory, outside of the tree if it has no place. -/
  | directory (place : Option (List (List Char)))
  /-- A directory in which the last name is missing, with the place of that name. -/
  | missing (place : Option (List (List Char)))
  /-- A name on the way is missing. -/
  | lost
  /-- A name on the way is that of a file. -/
  | blocked

/-- Goes on from a target by one name. -/
def step (t : FileTree) : Target → List Char → Target
  | .directory place, name =>
    if Files.isIdle name then .directory place
    else if name = ['.', '.'] then
      .directory (place.bind fun p => if p = [] then none else some p.dropLast)
    else
      match place with
      | none => .missing none
      | some place =>
        match t.entry? (place ++ [name]) with
        | some (.file contents) => .file (place ++ [name]) contents
        | some .directory => .directory (some (place ++ [name]))
        | none => .missing (some (place ++ [name]))
  | .file _ _, _ => .blocked
  | .missing _, _ => .lost
  | .lost, _ => .lost
  | .blocked, _ => .blocked

/-- Follows a path from the root of the tree. -/
def follow (t : FileTree) (path : String) : Target :=
  if path.isEmpty then .lost
  else
    (Files.names path).foldl t.step
      (.directory (if Files.isAbsolute path then none else some []))

/-! ### Access -/

/-- Why a path that leads nowhere cannot be used. -/
def noSuchFile : String := "No such file or directory (os error 2)"

/-- Why a path through a file cannot be used. -/
def notADirectory : String := "Not a directory (os error 20)"

/-- Why a directory cannot be used as a file. -/
def directoryFound : String := "Is a directory (os error 21)"

/-- Why bytes are no text. -/
def notText : String := "stream did not contain valid UTF-8"

/-- Whether a path leads to a directory. -/
def isDirectory (t : FileTree) (path : String) : Bool :=
  match t.follow path with
  | .directory _ => true
  | _ => false

/-- Whether a path leads to a file or a directory. -/
def isThere (t : FileTree) (path : String) : Bool :=
  match t.follow path with
  | .directory _ | .file _ _ => true
  | _ => false

/-- The text of the file to which a path leads. -/
def readText (t : FileTree) (path : String) : Except String String :=
  match t.follow path with
  | .file _ contents =>
    match String.fromUTF8? contents with
    | some text => .ok text
    | none => .error notText
  | .directory _ => .error directoryFound
  | .missing _ | .lost => .error noSuchFile
  | .blocked => .error notADirectory

/-- A path without the separators at its end, unless it has no name at all. -/
def withoutEnd (path : String) : String :=
  match path.toList.reverse.dropWhile (· = '/') with
  | [] => path
  | reversed => String.ofList reversed.reverse

/-- The tree with a text as the file to which a path leads.

A path that ends in a separator can only be that of a directory. -/
def writeText (t : FileTree) (path text : String) : Except String FileTree :=
  let bare := withoutEnd path
  match t.follow bare with
  | .directory _ => .error directoryFound
  | .file place _ | .missing (some place) =>
    if bare = path then .ok (t.set place (.file text.toUTF8)) else .error directoryFound
  | .missing none => .error (if bare = path then noSuchFile else directoryFound)
  | .lost => .error noSuchFile
  | .blocked => .error notADirectory

instance : Files (StateM FileTree) where
  isDirectory path := do return (← get).isDirectory path
  isThere path := do return (← get).isThere path
  readText path := do return (← get).readText path
  writeText path text := do
    match (← get).writeText path text with
    | .ok written =>
      MonadState.set written
      return .ok ()
    | .error reason => return .error reason

end FileTree

end NetDraft
