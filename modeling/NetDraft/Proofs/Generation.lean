/-
What generating a script leaves behind.

There are two ways out.  The script of the whole topology goes where it was asked for, byte for
byte the text of which the digest is taken, and nothing else changes; or there is no script at all,
every file is as it was, and the output is empty or tells the same problems as validating the
file.  Only a write that fails may leave something behind.

All looks at files come before the only write, so that a fault is found while the files are still as
they were.  Whether the files are on a disk or in memory does not matter for that.
-/
import NetDraft.Proofs.Compilation
import NetDraft.Proofs.Document.Loading
import NetDraft.Proofs.Files.Tree
import NetDraft.Proofs.Script.Digest
import NetDraft.Proofs.Startup

namespace NetDraft

variable {σ : Type} [FileStore σ] (s : σ)

/-! ### Loading and compiling -/

namespace Topology

theorem found_load (path : String) : found s (Topology.load path) =
    (do (← found s (Document.load path)).topology.mapError .entry) := by
  unfold Topology.load Document.load
  rw [found_bind s (FileStore.keeps_readFile path), found_bind s (FileStore.keeps_readFile path),
    bind_assoc]
  rfl

/-- A topology is loaded from a document none of whose entities is refused. -/
theorem found_load_eq_ok {path : String} {t : Topology} : found s (Topology.load path) = .ok t ↔
    ∃ d, found s (Document.load path) = .ok d ∧ (∀ e ∈ d.listed.entities, e.check = .ok ()) ∧
      t = d.listed := by
  simp only [found_load, Outcome.bind_eq_ok, Outcome.mapError_eq_ok, Document.topology_eq_ok]

theorem compile_of_valid {t : Topology} {inv : Inventory} {rules : Rules} {validate : Bool}
    (h : validate = true → t.validate inv rules = []) :
    t.compile inv validate rules = .script (.ofTopology t) := by
  cases validate with
  | false => rfl
  | true => exact compile_of_nil (h rfl) true

end Topology

/-! ### Commands -/

namespace Setup

variable (setup : Setup) (input : List UInt8) (path : String)

/-- What is said of a topology that cannot be loaded. -/
def refusal (path : String) (fault : LoadFault) : Failure :=
  .ofLoad ("Failed to load topology " ++ path) fault

/-- A command that loads a topology goes on with it, or fails without having changed anything. -/
theorem run_topology_bind (f : Topology → ExceptT Failure (StateM σ) Outcome) :
    ((topology path : ExceptT Failure (StateM σ) Topology) >>= f).run.run s =
      match found s (Topology.load path) with
      | .error fault => (.error (refusal path fault), s)
      | .ok t => (f t).run.run s := by
  have hkeeps : Keeps (topology path : ExceptT Failure (StateM σ) Topology).run :=
    (FileStore.keeps_loadTopology path).adapt _
  rw [ExceptT.run_bind, run_bind, hkeeps.run_eq s, topology, found_adapt]
  cases found s (Topology.load path) <;> rfl

theorem run_validate :
    (setup.perform input (.validate path) : ExceptT Failure (StateM σ) Outcome).run.run s =
      match found s (Topology.load path) with
      | .error fault => (.error (refusal path fault), s)
      | .ok t =>
        (.ok (if (t.validate setup.catalog.inventory setup.project.rules).isEmpty then .done ""
          else .problems (t.validate setup.catalog.inventory setup.project.rules) ""), s) := by
  refine (run_topology_bind s path _).trans ?_
  cases found s (Topology.load path) with
  | error fault => rfl
  | ok t =>
      dsimp only
      cases (t.validate setup.catalog.inventory setup.project.rules).isEmpty <;> rfl

/-- Whether the script is to be written only of a topology without problems. -/
def validates (checked : Bool) : Bool := setup.project.scripts.validate && checked

/-- What is said of a script that cannot be written. -/
def writeFailure (file reason : String) : Failure :=
  ⟨"Failed to write script", ["failed to write script to " ++ file ++ ": " ++ reason, reason]⟩

theorem run_writeScript (script : Script) (file : String) :
    (writeScript script file : ExceptT Failure (StateM σ) Unit).run.run s =
      (FileStore.write s file script.fileText).map (Except.mapError (writeFailure file)) id := by
  have hlift : (liftM (Files.writeText file script.fileText : StateM σ (Except String Unit)) :
      ExceptT Failure (StateM σ) (Except String Unit)).run.run s =
      (FileStore.write s file script.fileText).map .ok id := rfl
  unfold writeScript
  rw [ExceptT.run_bind, run_bind, hlift]
  generalize FileStore.write s file script.fileText = written
  obtain ⟨⟨⟩ | ⟨⟩, s'⟩ := written <;> rfl

theorem run_generate (checked : Bool) (output : Option String) :
    (setup.perform input (.generate path checked output) :
        ExceptT Failure (StateM σ) Outcome).run.run s =
      match found s (Topology.load path) with
      | .error fault => (.error (refusal path fault), s)
      | .ok t =>
        match t.compile setup.catalog.inventory (setup.validates checked) setup.project.rules,
          output with
        | .script script, some file =>
          (FileStore.write s file script.fileText).map
            (fun written => (written.map fun () => .done "").mapError (writeFailure file)) id
        | .script script, none => (.ok (.done (script.text ++ "\n")), s)
        | .invalid problems, _ =>
          (.ok (.problems problems "; fix them or pass --no-validate"), s) := by
  refine (run_topology_bind s path _).trans ?_
  cases found s (Topology.load path) with
  | error fault => rfl
  | ok t =>
      dsimp only [validates]
      cases t.compile setup.catalog.inventory _ setup.project.rules with
      | invalid problems => rfl
      | script script =>
          cases output with
          | none => rfl
          | some file =>
              dsimp only
              rw [ExceptT.run_bind, run_bind, run_writeScript]
              generalize FileStore.write s file script.fileText = written
              obtain ⟨⟨⟩ | ⟨⟩, s'⟩ := written <;> rfl

end Setup

/-! ### Runs -/

/-- The run of a command that may have failed. -/
def Run.ofResult : Except Failure Outcome → Run
  | .ok outcome => ofOutcome outcome
  | .error failure => ofOutcome (.failed failure)

namespace Invocation

/-- The run of an invocation, and the files afterwards. -/
def runIn (s : σ) (i : Invocation) (input : List UInt8) : Run × σ :=
  (i.perform input : StateM σ Outcome).run s |>.map Run.ofOutcome id

theorem run_ofArguments {arguments : List String} {i : Invocation}
    (h : ofArguments arguments = .ok i) (input : List UInt8) :
    (Run.ofArguments arguments input : StateM σ Run).run s = i.runIn s input := by
  rw [Run.ofArguments, h]
  rfl

variable {s} {i : Invocation} {setup : Setup} (hsetup : found s i.setup = .ok setup)
  (input : List UInt8)
include hsetup

theorem runIn_eq (command : Command) : { i with command }.runIn s input =
    ((setup.perform input command : ExceptT Failure (StateM σ) Outcome).run.run s).map
      Run.ofResult id := by
  have hrun := (FileStore.keeps_setup { i with command }).run_eq s
  have hfound : found s { i with command }.setup = .ok setup := hsetup
  rw [hfound] at hrun
  unfold runIn perform
  rw [run_bind, ExceptT.run_bind, run_bind, hrun]
  dsimp only
  generalize (setup.perform input command : ExceptT Failure (StateM σ) Outcome).run.run s = result
  obtain ⟨outcome | failure, s'⟩ := result <;> rfl

omit hsetup in
/-- Without the path of a catalog the one that comes with the program is used. -/
theorem found_setup_builtin {w : Workspace}
    (hworkspace : found s (Workspace.loadOrDefault i.project) = .ok w)
    (hcatalog : i.catalog = none) (hproject : w.project.catalog = none) :
    found s i.setup = .ok ⟨w.project, .builtin⟩ := by
  obtain ⟨hholds, -⟩ := Workspace.found_loadOrDefault_eq_ok.mp hworkspace
  have hchoice : ∀ base, i.catalogFile? base w.project = none := by
    intro base
    rw [catalogFile?, hcatalog, hproject]
    rfl
  refine found_setup_eq_ok.mpr ⟨hholds, ?_⟩
  rw [hchoice]
  rfl

variable {path : String} {t : Topology} {checked : Bool}

/-- A file that is no topology makes generation fail, and everything stays as it is. -/
theorem runIn_generate_of_error {fault : LoadFault}
    (hloaded : found s (Topology.load path) = .error fault) (output : Option String) :
    { i with command := .generate path checked output }.runIn s input
      = (.ofOutcome (.failed (Setup.refusal path fault)), s) := by
  rw [runIn_eq hsetup, Setup.run_generate, hloaded]
  rfl

section

variable (hloaded : found s (Topology.load path) = .ok t)
include hloaded

/-- Validation succeeds exactly if there are no problems, and its output is the problems. -/
theorem runIn_validate : ∃ run, { i with command := .validate path }.runIn s input = (run, s) ∧
    (run.code = 0 ↔ t.validate setup.catalog.inventory setup.project.rules = []) ∧
    run.output = Service.lines (t.validate setup.catalog.inventory setup.project.rules) := by
  rw [runIn_eq hsetup, Setup.run_validate, hloaded]
  dsimp only
  cases t.validate setup.catalog.inventory setup.project.rules with
  | nil => exact ⟨_, rfl, ⟨fun _ => rfl, fun _ => rfl⟩, rfl⟩
  | cons problem problems => exact ⟨_, rfl, ⟨nofun, nofun⟩, rfl⟩

/-- Problems are the output instead of a script, wherever the script was to go. -/
theorem runIn_generate_of_problems (hvalidates : setup.validates checked = true)
    (hproblems : t.validate setup.catalog.inventory setup.project.rules ≠ [])
    (output : Option String) :
    ∃ run, { i with command := .generate path checked output }.runIn s input = (run, s) ∧
      run.code ≠ 0 ∧
      run.output = Service.lines (t.validate setup.catalog.inventory setup.project.rules) := by
  rw [runIn_eq hsetup, Setup.run_generate, hloaded]
  dsimp only
  rw [hvalidates, Topology.compile_of_ne_nil hproblems]
  exact ⟨_, rfl, nofun, rfl⟩

variable (hpasses : setup.validates checked = true →
  t.validate setup.catalog.inventory setup.project.rules = [])
include hpasses

/-- A script that is not asked for in a file is the output. -/
theorem runIn_generate_output : { i with command := .generate path checked none }.runIn s input
    = (.ofOutcome (.done ((Script.ofTopology t).text ++ "\n")), s) := by
  rw [runIn_eq hsetup, Setup.run_generate, hloaded]
  dsimp only
  rw [Topology.compile_of_valid hpasses]
  rfl

/-- A script that is asked for in a file is written there. -/
theorem runIn_generate_file (file : String) : ∃ run,
    { i with command := .generate path checked (some file) }.runIn s input
        = (run, (FileStore.write s file (Script.ofTopology t).fileText).2) ∧
      (run.code = 0 ↔ (FileStore.write s file (Script.ofTopology t).fileText).1 = .ok ()) ∧
      run.output = "" := by
  rw [runIn_eq hsetup, Setup.run_generate, hloaded]
  dsimp only
  rw [Topology.compile_of_valid hpasses]
  dsimp only
  generalize FileStore.write s file (Script.ofTopology t).fileText = written
  obtain ⟨⟨⟩ | ⟨⟩, s'⟩ := written
  · exact ⟨_, rfl, ⟨nofun, nofun⟩, rfl⟩
  · exact ⟨_, rfl, ⟨fun _ => rfl, fun _ => rfl⟩, rfl⟩

end

end Invocation

namespace Run

/--
**Generating a script leaves behind the whole script or nothing.**

The first part is about a file whose entities are all accepted and that validation, where it is
asked for, does not object to: its script is the output, or it is written to the one file that
changes, and in both cases the bytes are those of which the digest is taken.  A write that fails
leaves no output.  The second part is about a file that validation objects to, and the third about
one that is no topology.
-/
theorem generate_all_or_nothing {s : σ} {arguments : List String} {i : Invocation} {path : String}
    {checked : Bool} {output : Option String} {setup : Setup}
    (harguments : Invocation.ofArguments arguments
      = .ok { i with command := .generate path checked output })
    (hsetup : found s i.setup = .ok setup) (input : List UInt8) :
    let generation := (Run.ofArguments arguments input : StateM σ Run).run s
    let validation := ({ i with command := .validate path }.runIn s input).1
    let passes := setup.project.scripts.validate = true ∧ checked = true → validation.code = 0
    let accepted := fun d => found s (Document.load path) = .ok d ∧
      ∀ e ∈ d.listed.entities, e.check = .ok ()
    (∀ d, accepted d → passes →
      let script := Script.ofTopology d.listed
      let bytes := (script.text ++ "\n").toUTF8
      script.hash = Sha256.hex bytes.toList ∧
        (output = none → generation.1.code = 0 ∧ generation.1.output.toUTF8 = bytes ∧
          generation.2 = s) ∧
        ∀ file, output = some file → generation.1.output = "" ∧
          ((FileStore.write s file (script.text ++ "\n")).1 = .ok () →
            generation.1.code = 0 ∧ FileStore.Wrote s generation.2 file bytes) ∧
          ((FileStore.write s file (script.text ++ "\n")).1 ≠ .ok () → generation.1.code ≠ 0)) ∧
    (∀ d, accepted d → ¬passes → generation.1.code ≠ 0 ∧ generation.2 = s ∧
      generation.1.output = validation.output) ∧
    ((¬∃ d, accepted d) → generation.1.code ≠ 0 ∧ generation.2 = s ∧
      generation.1.output = "") := by
  dsimp only
  rw [Invocation.run_ofArguments s harguments]
  have hpasses : setup.validates checked = true ↔
      setup.project.scripts.validate = true ∧ checked = true := by simp [Setup.validates]
  rw [← hpasses]
  refine ⟨?_, ?_, ?_⟩
  · rintro d ⟨hload, hchecks⟩ hvalid
    have hloaded := (Topology.found_load_eq_ok s).mpr ⟨d, hload, hchecks, rfl⟩
    obtain ⟨validation, hvalidation, hcode, -⟩ :=
      Invocation.runIn_validate hsetup input hloaded
    rw [hvalidation] at hvalid
    have hnil := fun h => hcode.mp (hvalid h)
    refine ⟨Script.hash_ofTopology d.listed, ?_, ?_⟩
    · rintro rfl
      rw [Invocation.runIn_generate_output hsetup input hloaded hnil]
      exact ⟨rfl, rfl, rfl⟩
    · rintro file rfl
      obtain ⟨run, hrun, hwritten, houtput⟩ :=
        Invocation.runIn_generate_file hsetup input hloaded hnil file
      rw [hrun]
      refine ⟨houtput, fun hok => ⟨hwritten.mpr hok, ?_⟩, fun herror => mt hwritten.mp herror⟩
      exact FileStore.writeText_eq_ok file _ s _ (Prod.ext hok rfl)
  · rintro d ⟨hload, hchecks⟩ hfails
    have hloaded := (Topology.found_load_eq_ok s).mpr ⟨d, hload, hchecks, rfl⟩
    obtain ⟨validation, hvalidation, hcode, htold⟩ :=
      Invocation.runIn_validate hsetup input hloaded
    rw [hvalidation, Classical.not_imp, hcode] at hfails
    obtain ⟨run, hrun, hfailed, houtput⟩ := Invocation.runIn_generate_of_problems hsetup input
      hloaded hfails.1 hfails.2 output
    rw [hrun, hvalidation]
    exact ⟨hfailed, rfl, houtput.trans htold.symm⟩
  · intro hnone
    cases hloaded : found s (Topology.load path) with
    | ok t =>
        obtain ⟨d, hload, hchecks, -⟩ := (Topology.found_load_eq_ok s).mp hloaded
        exact absurd ⟨d, hload, hchecks⟩ hnone
    | error fault =>
        rw [Invocation.runIn_generate_of_error hsetup input hloaded]
        exact ⟨nofun, rfl, rfl⟩

/-- A document with one device. -/
def bench : Document := ⟨[⟨"R1", "PC-PT", .ofNat 0, .ofNat 0⟩], [], [], [], []⟩

/-- A tree with a file of that document and nothing else. -/
def benchTree : FileTree :=
  .add .empty "bench.yaml" "devices:\n- name: R1\n  model: PC-PT\n  x: 0\n  y: 0\n".toUTF8

/-- The script of a document that is validated first goes to a file that was not there before. -/
theorem generate_all_or_nothing_bench :
    Invocation.ofArguments ["generate", "bench.yaml", "--output", "bench.js"]
        = .ok ⟨"topoforge.yaml", none, .generate "bench.yaml" true (some "bench.js")⟩ ∧
      found benchTree (Invocation.setup ⟨"topoforge.yaml", none, .serve⟩)
        = .ok ⟨.default, .builtin⟩ ∧
      ∃ run tree, (ofArguments ["generate", "bench.yaml", "--output", "bench.js"] [] :
          StateM FileTree Run).run benchTree = (run, tree) ∧
        run.code = 0 ∧ run.output = "" ∧ FileStore.Wrote benchTree tree "bench.js"
          ((Script.ofTopology bench.listed).text ++ "\n").toUTF8 := by
  have harguments : Invocation.ofArguments ["generate", "bench.yaml", "--output", "bench.js"]
      = .ok ⟨"topoforge.yaml", none, .generate "bench.yaml" true (some "bench.js")⟩ := by
    decide +kernel
  have hworkspace : found benchTree (Workspace.loadOrDefault "topoforge.yaml")
      = .ok ⟨.default, ""⟩ := by rfl
  have hsetup := Invocation.found_setup_builtin (i := ⟨"topoforge.yaml", none, .serve⟩) hworkspace
    rfl rfl
  have hload : found benchTree (Document.load "bench.yaml") = .ok bench := by decide +kernel
  have hchecks : ∀ e ∈ bench.listed.entities, e.check = .ok () := by decide
  have hproblems : bench.listed.validate Catalog.builtin.inventory .none = [] := by decide +kernel
  have hwrite : (FileStore.write benchTree "bench.js"
      ((Script.ofTopology bench.listed).text ++ "\n")).1 = .ok () := by decide +kernel
  have h := generate_all_or_nothing harguments hsetup []
  obtain ⟨validation, hvalidation, hcode, -⟩ := Invocation.runIn_validate hsetup []
    ((Topology.found_load_eq_ok benchTree).mpr ⟨bench, hload, hchecks, rfl⟩)
  dsimp only at h hsetup hvalidation hcode
  rw [hvalidation] at h
  refine ⟨harguments, hsetup, ?_⟩
  generalize (ofArguments _ [] : StateM FileTree Run).run benchTree = generation at h ⊢
  obtain ⟨run, tree⟩ := generation
  obtain ⟨-, -, hfile⟩ := h.1 bench ⟨hload, hchecks⟩ fun _ => hcode.mpr hproblems
  obtain ⟨houtput, hwritten, -⟩ := hfile "bench.js" rfl
  exact ⟨run, tree, rfl, (hwritten hwrite).1, houtput, (hwritten hwrite).2⟩

end Run

end NetDraft
