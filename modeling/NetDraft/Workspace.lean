/-
Loading a project, its catalog and topologies from files.

A path to a project is that of its file or of the directory with the file.  Paths within the
settings start from that directory, and all others from where the program was started.
-/
import NetDraft.Catalog.Builtin
import NetDraft.Files
import NetDraft.Load
import NetDraft.Project

namespace NetDraft

/-- A project with the directory where its paths start. -/
structure Workspace where
  project : Project
  base : String

variable {m : Type → Type} [Monad m] [Files m]

/-- The text of a file, which has to be there. -/
def readFile (path : String) : ExceptT LoadFault m String := do
  if ← (Files.isThere path : m Bool) then
    match ← (Files.readText path : m (Except String String)) with
    | .ok text => return text
    | .error reason => throw (.unreadable reason)
  else throw (.notFound path)

/-- The catalog of a file. -/
def Catalog.load (path : String) : ExceptT LoadFault m Catalog := do
  Catalog.ofYaml (← readFile path)

/-- The document of a file. -/
def Document.load (path : String) : ExceptT LoadFault m Document := do
  readYaml (← readFile path)

/-- The topology of a file. -/
def Topology.load (path : String) : ExceptT LoadFault m Topology := do
  Topology.ofYaml (← readFile path)

namespace Workspace

/-- The name of the file with the settings of a project. -/
def fileName : String := "topoforge.yaml"

/-- The file with the settings, and the directory where the paths within it start. -/
def locate (path : String) : m (String × String) := do
  if ← Files.isDirectory path then return (Files.join path fileName, path)
  else return (path, Files.parent path)

/-- The project of a path. -/
def load (path : String) : ExceptT LoadFault m Workspace := do
  let (file, base) ← (locate path : m (String × String))
  let text ← readFile file
  return ⟨← readYaml text, base⟩

/-- The project of a path, or one with default settings if its file is not there. -/
def loadOrDefault (path : String) : ExceptT LoadFault m Workspace :=
  tryCatch (load path) fun
    | .notFound _ => do
      let (_, base) ← (locate path : m (String × String))
      return ⟨.default, base⟩
    | fault => throw fault

/-- The catalog of the project: that of its settings, or the one that comes with the program. -/
def catalog (w : Workspace) : ExceptT LoadFault m Catalog :=
  match w.project.catalog with
  | some path => Catalog.load (Files.join w.base path)
  | none => return .builtin

end Workspace

end NetDraft
