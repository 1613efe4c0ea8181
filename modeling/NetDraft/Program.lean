/-
The program: from a command line and an input to an output and an exit code.

The project and the catalog are loaded before any command, so that a fault in them shows whatever
the command is.
-/
import NetDraft.Invocation
import NetDraft.Serving
import NetDraft.Workspace

namespace NetDraft

/-! ### Failures -/

/-- Why a command fails: what did not succeed, and the causes of it, the nearest one first. -/
structure Failure where
  subject : String
  causes : List String
deriving DecidableEq

namespace Failure

/-- What did not succeed because of a file. -/
def ofLoad (subject : String) (fault : LoadFault) : Failure := ⟨subject, fault.causes⟩

/-- A text whose lines after the first one begin at a column. -/
def hanging (column : Nat) (text : String) : List Char :=
  Text.joined ('\n' :: List.replicate column ' ') (Text.pieces '\n' text.toList)

/-- The report of one of several causes, numbered from zero. -/
def numberedCause (cause : String) (number : Nat) : List Char :=
  let digits := Text.digits number
  List.replicate (5 - digits.length) ' ' ++ digits ++ [':', ' '] ++ hanging 7 cause ++ ['\n']

/-- The report of a failure. -/
def report (f : Failure) : String :=
  "Error: " ++ f.subject ++ "\n" ++
    match f.causes with
    | [] => ""
    | [cause] => "\nCaused by:\n" ++ String.ofList ("    ".toList ++ hanging 4 cause ++ ['\n'])
    | causes =>
      "\nCaused by:\n" ++ String.ofList (causes.zipIdx.flatMap fun c => numberedCause c.1 c.2)

end Failure

/-! ### Commands -/

/-- What a command leaves behind: its output, and why it failed if it did. -/
structure Outcome where
  output : String
  failure : Option Failure
deriving DecidableEq

namespace Outcome

/-- A command succeeded. -/
def done (output : String) : Outcome := ⟨output, none⟩

/-- A command failed without any output. -/
def failed (failure : Failure) : Outcome := ⟨"", some failure⟩

/-- A command failed because of problems in a topology, which are its output. -/
def problems (problems : List String) (advice : String) : Outcome :=
  ⟨Service.lines problems,
    some ⟨Text.decimal problems.length ++ " validation error(s)" ++ advice, []⟩⟩

end Outcome

/-- The project and the catalog that a command works with. -/
structure Setup where
  project : Project
  catalog : Catalog

variable {m : Type → Type} [Monad m] [Files m]

/-- Loads the project and the catalog; a catalog of the invocation replaces that of the project. -/
def Invocation.setup (i : Invocation) : ExceptT Failure m Setup := do
  let workspace ← ExceptT.adapt (Failure.ofLoad "Failed to load configuration")
    (Workspace.loadOrDefault i.project)
  let catalog ← ExceptT.adapt (Failure.ofLoad "Failed to load catalog")
    (match i.catalog with
    | some path => Catalog.load path
    | none => workspace.catalog)
  return ⟨workspace.project, catalog⟩

namespace Setup

/-- The service that a session gets. -/
def service (s : Setup) : Service :=
  ⟨s.catalog.inventory, s.project.rules, s.project.scripts.validate⟩

/-- The topology of a file. -/
def topology (path : String) : ExceptT Failure m Topology :=
  ExceptT.adapt (Failure.ofLoad ("Failed to load topology " ++ path)) (Topology.load path)

/-- Writes a script to a file. -/
def writeScript (script : Script) (path : String) : ExceptT Failure m Unit := do
  match ← (Files.writeText path script.fileText : m (Except String Unit)) with
  | .ok () => return
  | .error reason =>
    throw ⟨"Failed to write script",
      ["failed to write script to " ++ path ++ ": " ++ reason, reason]⟩

/-- Performs a command on an input. -/
def perform (s : Setup) (input : List UInt8) : Command → ExceptT Failure m Outcome
  | .validate path => do
    let problems := (← topology path).validate s.catalog.inventory s.project.rules
    if problems.isEmpty then return .done "" else return .problems problems ""
  | .generate path withValidation output => do
    let t ← topology path
    let validate := s.project.scripts.validate && withValidation
    match t.compile s.catalog.inventory validate s.project.rules, output with
    | .script script, some output =>
      writeScript script output
      return .done ""
    | .script script, none => return .done (script.text ++ "\n")
    | .invalid problems, _ => return .problems problems "; fix them or pass --no-validate"
  | .catalog kind limit startsWith =>
    match s.catalog.inventory.list? kind limit startsWith with
    | some listing => return .done (Service.lines listing.entries)
    | none => throw ⟨Inventory.limitMessage limit, []⟩
  | .summary path => do
    return .done ((← topology path).summary.toJson.indented ++ "\n")
  | .serve => return .done (s.service.serve .empty input).2

end Setup

/-- Does what an invocation asks for. -/
def Invocation.perform (i : Invocation) (input : List UInt8) : m Outcome := do
  let outcome : Except Failure Outcome ← ExceptT.run do
    let s ← i.setup
    s.perform input i.command
  match outcome with
  | .ok outcome => return outcome
  | .error failure => return .failed failure

/-! ### Runs -/

/-- What a run of the program leaves behind. -/
structure Run where
  code : UInt8
  output : String
  /-- The report of a failure. -/
  report : String
deriving DecidableEq

namespace Run

/-- The line that tells the version. -/
def versionLine : String := "topoforge 0.1.0\n"

/-- How the program is used. -/
def instructions : String :=
  Service.lines [
    "Usage: topoforge [--config FILE] [--catalog FILE] [--verbose] COMMAND",
    "",
    "Commands:",
    "  validate TOPOLOGY",
    "  generate TOPOLOGY [--no-validate] [--output FILE]",
    "  catalog KIND [--limit N] [--starts-with TEXT]",
    "  summary TOPOLOGY",
    "  serve"]

/-- The run of a command line that asks for no command. -/
def ofStop : Stop → Run
  | .version => ⟨0, versionLine, ""⟩
  | .help => ⟨0, instructions, ""⟩
  | .rejected => ⟨2, "", instructions⟩

/-- The run of a command. -/
def ofOutcome (outcome : Outcome) : Run :=
  match outcome.failure with
  | none => ⟨0, outcome.output, ""⟩
  | some failure => ⟨1, outcome.output, failure.report⟩

/-- Runs the program. -/
def ofArguments (arguments : List String) (input : List UInt8) : m Run := do
  match Invocation.ofArguments arguments with
  | .ok invocation => return ofOutcome (← invocation.perform input)
  | .error stop => return ofStop stop

end Run

end NetDraft
