/-
Invocations: what a command line asks the program to do.

In front of the command stand the options that all commands share, and behind it its own words and
options.
-/
import NetDraft.Arguments
import NetDraft.Catalog
import NetDraft.Decimal
import NetDraft.Shape

namespace NetDraft

/-- What the program is to do. -/
inductive Command where
  | validate (topology : String)
  | generate (topology : String) (withValidation : Bool) (output : Option String)
  | catalog (kind : Kind) (limit : Int) (startsWith : String)
  | summary (topology : String)
  /-- Handle requests line by line. -/
  | serve
deriving DecidableEq

/-- A command with what all commands have in common. -/
structure Invocation where
  /-- The path of the project. -/
  project : String
  /-- The path of a catalog to be used instead of that of the project. -/
  catalog : Option String
  command : Command
deriving DecidableEq

namespace Invocation

/-- The project that is used if none is named. -/
def defaultProject : String := "topoforge.yaml"

/-- How many entries are listed if nothing is said about it. -/
def defaultLimit : Int := 50

/-! ### Options of all commands -/

/-- The options in front of the command. -/
structure Globals where
  project : Option String
  catalog : Option String
  verbose : Option Unit

/-- How the options in front of the command are read. -/
def globals : Grammar Globals where
  switches := [
    ⟨some 'c', "config", .value ⟨false, fun text g => do
      return { g with project := ← Stop.once g.project (← Stop.path text) }⟩⟩,
    ⟨none, "catalog", .value ⟨false, fun text g => do
      return { g with catalog := ← Stop.once g.catalog (← Stop.path text) }⟩⟩,
    ⟨some 'v', "verbose", .flag fun g => do
      return { g with verbose := ← Stop.once g.verbose () }⟩,
    ⟨some 'V', "version", .flag fun _ => .error .version⟩,
    helpSwitch]
  onWord := none

/-! ### Commands -/

/-- How the path of a topology is read. -/
def topologyOnly : Grammar (Option String) where
  switches := [helpSwitch]
  onWord := some fun text s => do Stop.once s (← Stop.path text)

/-- Reads the arguments of a command that takes a topology. -/
def readTopology (make : String → Command) (arguments : List String) : Except Stop Command := do
  let (s, _) ← topologyOnly.read arguments none
  return make (← Stop.required s)

/-- What is said about generating a script. -/
structure ScriptRequest where
  topology : Option String
  unchecked : Option Unit
  output : Option String

/-- How the arguments for generating a script are read. -/
def scriptRequest : Grammar ScriptRequest where
  switches := [
    ⟨none, "no-validate", .flag fun s => do
      return { s with unchecked := ← Stop.once s.unchecked () }⟩,
    ⟨some 'o', "output", .value ⟨false, fun text s => do
      return { s with output := ← Stop.once s.output (← Stop.path text) }⟩⟩,
    helpSwitch]
  onWord := some fun text s => do
    return { s with topology := ← Stop.once s.topology (← Stop.path text) }

/-- Reads the arguments for generating a script. -/
def readGenerate (arguments : List String) : Except Stop Command := do
  let (s, _) ← scriptRequest.read arguments ⟨none, none, none⟩
  return .generate (← Stop.required s.topology) s.unchecked.isNone s.output

/-- What is said about listing a catalog. -/
structure ListRequest where
  kind : Option Kind
  limit : Option Int
  startsWith : Option String

/-- Reads an integer of 64 bits. -/
def readInteger (text : String) : Except Stop Int :=
  let (negative, digits) := Decimal.splitSign text.toList
  let n : Int := Nat.ofDigitChars 10 digits 0
  let i := if negative then -n else n
  if digits ≠ [] ∧ digits.all Char.isDigit ∧ -0x8000000000000000 ≤ i ∧ i < 0x8000000000000000 then .ok i
  else .error .rejected

/-- Reads the name of a kind. -/
def readKind (text : String) : Except Stop Kind := (Kind.ofText text).mapError fun _ => .rejected

/-- How the arguments for listing a catalog are read. -/
def listRequest : Grammar ListRequest where
  switches := [
    ⟨some 'l', "limit", .value ⟨true, fun text s => do
      return { s with limit := ← Stop.once s.limit (← readInteger text) }⟩⟩,
    ⟨some 's', "starts-with", .value ⟨false, fun text s => do
      return { s with startsWith := ← Stop.once s.startsWith text }⟩⟩,
    helpSwitch]
  onWord := some fun text s => do
    return { s with kind := ← Stop.once s.kind (← readKind text) }

/-- Reads the arguments for listing a catalog. -/
def readCatalog (arguments : List String) : Except Stop Command := do
  let (s, _) ← listRequest.read arguments ⟨none, none, none⟩
  return .catalog (← Stop.required s.kind) (s.limit.getD defaultLimit) (s.startsWith.getD "")

/-- How the arguments of a command without any are read. -/
def nothing : Grammar Unit where
  switches := [helpSwitch]
  onWord := some fun _ _ => .error .rejected

/-- Reads the arguments of a command without any. -/
def readServe (arguments : List String) : Except Stop Command := do
  let _ ← nothing.read arguments ()
  return .serve

/-- The names of all commands. -/
def commandNames : List String := ["validate", "generate", "catalog", "summary", "serve", "help"]

/-- Reads a command with its arguments. -/
def readCommand : List String → Except Stop Command
  | "validate" :: arguments => readTopology .validate arguments
  | "generate" :: arguments => readGenerate arguments
  | "catalog" :: arguments => readCatalog arguments
  | "summary" :: arguments => readTopology .summary arguments
  | "serve" :: arguments => readServe arguments
  | ["help"] => .error .help
  | ["help", name] => .error (if name ∈ commandNames then .help else .rejected)
  | _ => .error .rejected

/-- The invocation of a command line. -/
def ofArguments (arguments : List String) : Except Stop Invocation := do
  let (g, rest) ← globals.read arguments ⟨none, none, none⟩
  let command ← readCommand rest
  return ⟨g.project.getD defaultProject, g.catalog, command⟩

end Invocation

end NetDraft
