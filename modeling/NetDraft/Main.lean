/-
The program on a real machine: its files are those of the disk, and its input and output are the
standard streams.  Requests are answered as soon as their line is complete.
-/
import NetDraft.Program

namespace NetDraft

/-- Why an access to a file failed. -/
def reasonOf : IO.Error → String
  | .alreadyExists _ code details | .otherError code details | .resourceBusy code details
  | .resourceVanished code details | .unsupportedOperation code details
  | .hardwareFault code details | .unsatisfiedConstraints code details
  | .illegalOperation code details | .protocolError code details | .timeExpired code details
  | .interrupted _ code details | .noFileOrDirectory _ code details
  | .invalidArgument _ code details | .permissionDenied _ code details
  | .resourceExhausted _ code details | .inappropriateType _ code details
  | .noSuchThing _ code details =>
    details ++ " (os error " ++ Text.decimal code.toNat ++ ")"
  | .unexpectedEof => "unexpected end of file"
  | .userError details => details

/-- The disk, seen from the current directory. -/
instance : Files IO where
  isDirectory path := do
    let here ← IO.currentDir
    return !path.isEmpty && (← (here / path).isDir)
  isThere path := do
    let here ← IO.currentDir
    return !path.isEmpty && (← (here / path).pathExists)
  readText path := do
    try
      match String.fromUTF8? (← IO.FS.readBinFile path) with
      | some text => return .ok text
      | none => return .error "stream did not contain valid UTF-8"
    catch e => return .error (reasonOf e)
  writeText path text := do
    try
      IO.FS.writeBinFile path text.toUTF8
      return .ok ()
    catch e => return .error (reasonOf e)

/-- How many bytes are read at once. -/
def chunkSize : USize := 65536

/-- Answers requests as they come in, until the input ends. -/
partial def serveStream (s : Service) (t : Topology) (pending : List UInt8) : IO Unit := do
  let chunk ← (← IO.getStdin).read chunkSize
  let output ← IO.getStdout
  let received := pending ++ chunk.data.toList
  let (complete, rest) :=
    if chunk.isEmpty then (received, []) else Service.cutLines received
  let (t, answers) := s.serve t complete
  output.putStr answers
  output.flush
  if chunk.isEmpty then return else serveStream s t rest

/-- Serves requests with the project and the catalog of an invocation. -/
def serveInvocation (i : Invocation) : IO Run := do
  let setup : Except Failure Setup ← (i.setup : ExceptT Failure IO Setup).run
  match setup with
  | .ok setup =>
    serveStream setup.service .empty []
    return .ofOutcome (.done "")
  | .error failure => return .ofOutcome (.failed failure)

/-- Runs the program on a command line. -/
def runOnDisk (arguments : List String) : IO Run :=
  match Invocation.ofArguments arguments with
  | .ok ⟨project, catalog, .serve⟩ => serveInvocation ⟨project, catalog, .serve⟩
  | _ => Run.ofArguments arguments []

end NetDraft

/-- The program. -/
def main (arguments : List String) : IO UInt32 := do
  let run ← NetDraft.runOnDisk arguments
  (← IO.getStdout).putStr run.output
  (← IO.getStderr).putStr run.report
  return run.code.toUInt32
