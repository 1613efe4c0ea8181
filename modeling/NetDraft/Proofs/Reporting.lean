/-
What validating a file prints.

Every diagnostic is printed with a line break behind it.  It quotes texts of the document as they
stand, so it may hold line breaks itself, and then it takes up several lines.  How many lines there
are is counted by the line breaks in the diagnostics; they are as many as the diagnostics, and the
diagnostics themselves, exactly if no text that is quoted has a line break.
-/
import Mathlib.Algebra.Ring.Nat
import NetDraft.Proofs.Generation
import NetDraft.Proofs.Validation.Attribution

namespace NetDraft

/-! ### Lines -/

/-- The lines of an output, without the line breaks at their ends. -/
def Run.outputLines (output : String) : List (List Char) :=
  (Text.pieces '\n' output.toList).dropLast

theorem toList_lines (texts : List String) : (Service.lines texts).toList
    = texts.flatMap fun text => text.toList ++ ['\n'] := by
  rw [Service.lines, String.toList_join, List.flatMap_map]
  exact List.flatMap_congr fun text _ => String.toList_append

/-- Texts with a line break behind each are cut into the lines of the texts. -/
theorem pieces_lines (texts : List String) : Text.pieces '\n' (Service.lines texts).toList
    = (texts.flatMap fun text => Text.pieces '\n' text.toList) ++ [[]] := by
  rw [toList_lines]
  induction texts with
  | nil => rfl
  | cons text texts ih =>
      rw [List.flatMap_cons, List.flatMap_cons, List.append_assoc, List.singleton_append,
        Text.pieces_append_separator, ih, List.append_assoc]

theorem outputLines_lines (texts : List String) : Run.outputLines (Service.lines texts)
    = texts.flatMap fun text => Text.pieces '\n' text.toList := by
  rw [Run.outputLines, pieces_lines, List.dropLast_concat]

/-- Every line break within a text makes one line more. -/
theorem length_outputLines_lines (texts : List String) :
    (Run.outputLines (Service.lines texts)).length
      = texts.length + (texts.map fun text => text.toList.count '\n').sum := by
  rw [outputLines_lines]
  induction texts with
  | nil => rfl
  | cons text texts ih =>
      rw [List.flatMap_cons, List.length_append, ih, Text.length_pieces, List.map_cons,
        List.sum_cons, List.length_cons]
      omega

/-- Without line breaks within them, the lines are the texts. -/
theorem outputLines_eq_iff (texts : List String) :
    (Run.outputLines (Service.lines texts) = texts.map String.toList ↔
      ∀ text ∈ texts, '\n' ∉ text.toList) ∧
    ((Run.outputLines (Service.lines texts)).length = texts.length ↔
      ∀ text ∈ texts, '\n' ∉ text.toList) := by
  have hlength : (Run.outputLines (Service.lines texts)).length = texts.length →
      ∀ text ∈ texts, '\n' ∉ text.toList := by
    intro h text htext
    rw [length_outputLines_lines] at h
    have hsum : (texts.map fun text => text.toList.count '\n').sum = 0 := by omega
    rw [List.sum_eq_zero_iff_forall_eq_nat] at hsum
    exact List.count_eq_zero.mp (hsum _ (List.mem_map_of_mem htext))
  have hlines : (∀ text ∈ texts, '\n' ∉ text.toList) →
      Run.outputLines (Service.lines texts) = texts.map String.toList := by
    intro h
    rw [outputLines_lines, List.map_eq_flatMap]
    exact List.flatMap_congr fun text htext => Text.pieces_of_not_mem (h text htext)
  refine ⟨⟨fun h => hlength ?_, hlines⟩, ⟨hlength, fun h => ?_⟩⟩
  · rw [h, List.length_map]
  · rw [hlines h, List.length_map]

/-! ### Quoted texts -/

namespace Diagnostic

/-- The texts of the document that a diagnostic quotes. -/
def quoted : Diagnostic → List String
  | duplicateName _ name => [name]
  | unknownDeviceModel _ name model => [name, model]
  | unknownFirstEnd _ device => [device]
  | unknownSecondEnd _ device => [device]
  | unknownCable _ cable => [cable]
  | duplicateLink _ _ link =>
    [link.first.device, link.first.interface, link.second.device, link.second.interface]
  | moduleWithoutDevice _ device => [device]
  | unknownModuleModel _ device model => [device, model]
  | slotTaken _ _ device _ => [device]
  | hostWithoutDevice _ device => [device]
  | dhcpAndStatic _ device => [device]
  | routerWithoutDevice _ device => [device]

/-- The words of a diagnostic have the line breaks of the texts that it quotes and no other. -/
theorem newline_mem_message_iff (d : Diagnostic) :
    '\n' ∈ d.message.toList ↔ ∃ text ∈ d.quoted, '\n' ∈ text.toList := by
  have hdigits : ∀ n : Nat, '\n' ∉ Text.digits n := Numeral.notMem_digits (by decide)
  cases d <;> simp [message, quoted, place, quote, Text.decimal, hdigits]

end Diagnostic

/-! ### Runs -/

namespace Run

variable {σ : Type} [FileStore σ]

/-- The run of a validation that finds problems. -/
theorem run_validate_problems {s : σ} {arguments : List String} {i : Invocation} {path : String}
    {setup : Setup} {t : Topology}
    (harguments : Invocation.ofArguments arguments = .ok { i with command := .validate path })
    (hsetup : found s i.setup = .ok setup) (hloaded : found s (Topology.load path) = .ok t)
    (hproblems : t.validate setup.catalog.inventory setup.project.rules ≠ [])
    (input : List UInt8) : (ofArguments arguments input : StateM σ Run).run s =
      (⟨1, Service.lines (t.validate setup.catalog.inventory setup.project.rules),
        "Error: " ++ (Text.decimal (t.validate setup.catalog.inventory setup.project.rules).length
          ++ " validation error(s)") ++ "\n"⟩, s) := by
  rw [Invocation.run_ofArguments s harguments, Invocation.runIn_eq hsetup, Setup.run_validate,
    hloaded]
  dsimp only
  rw [if_neg (by rwa [List.isEmpty_iff])]
  simp [ofResult, ofOutcome, Outcome.problems, Failure.report]

/--
**Validating prints every diagnostic, cut where the texts that it quotes have line breaks.**

The run fails and leaves every file as it was, and its report tells how many diagnostics there are.
There are as many lines, and the lines are the diagnostics, exactly if no text of the document that
a diagnostic quotes has a line break; every line break makes one line more.
-/
theorem validate_prints {s : σ} {arguments : List String} {i : Invocation} {path : String}
    {setup : Setup} {t : Topology}
    (harguments : Invocation.ofArguments arguments = .ok { i with command := .validate path })
    (hsetup : found s i.setup = .ok setup) (hloaded : found s (Topology.load path) = .ok t)
    (hproblems : t.validate setup.catalog.inventory setup.project.rules ≠ [])
    (input : List UInt8) :
    let diagnostics := t.validate setup.catalog.inventory setup.project.rules
    let plain := ∀ d ∈ t.problems setup.catalog.inventory setup.project.rules,
      ∀ text ∈ d.quoted, '\n' ∉ text.toList
    ∃ run, (ofArguments arguments input : StateM σ Run).run s = (run, s) ∧
      run.code = 1 ∧
      run.report
        = "Error: " ++ (Text.decimal diagnostics.length ++ " validation error(s)") ++ "\n" ∧
      outputLines run.output = diagnostics.flatMap (fun text => Text.pieces '\n' text.toList) ∧
      (outputLines run.output).length
        = diagnostics.length + (diagnostics.map fun text => text.toList.count '\n').sum ∧
      (outputLines run.output = diagnostics.map String.toList ↔ plain) ∧
      ((outputLines run.output).length = diagnostics.length ↔ plain) := by
  intro diagnostics plain
  have hplain : (∀ text ∈ diagnostics, '\n' ∉ text.toList) ↔ plain := by
    simp only [diagnostics, plain, Topology.validate, List.forall_mem_map,
      Diagnostic.newline_mem_message_iff, not_exists, not_and]
  obtain ⟨hlines, hlength⟩ := outputLines_eq_iff diagnostics
  rw [hplain] at hlines hlength
  exact ⟨_, run_validate_problems harguments hsetup hloaded hproblems input, rfl, rfl,
    outputLines_lines diagnostics, length_outputLines_lines diagnostics, hlines, hlength⟩

/-! ### A file with one device -/

/-- A tree with one file, about one device whose model is written so between quotes. -/
def labTree (model : String) : FileTree :=
  .add .empty "lab.yaml"
    ("devices:\n- name: R1\n  model: \"" ++ model ++ "\"\n  x: 0\n  y: 0\n").toUTF8

/-- A topology of one device. -/
def lab (model : String) : Topology :=
  Document.listed ⟨[⟨"R1", model, .ofNat 0, .ofNat 0⟩], [], [], [], []⟩

theorem ofArguments_validate_lab : Invocation.ofArguments ["validate", "lab.yaml"]
    = .ok ⟨"topoforge.yaml", none, .validate "lab.yaml"⟩ := by
  decide +kernel

theorem found_setup_lab (model : String) :
    found (labTree model) (Invocation.setup ⟨"topoforge.yaml", none, .serve⟩)
      = .ok ⟨.default, .builtin⟩ := by
  have hworkspace : found (labTree model) (Workspace.loadOrDefault "topoforge.yaml")
      = .ok ⟨.default, ""⟩ := by
    rfl
  exact Invocation.found_setup_builtin (i := ⟨"topoforge.yaml", none, .serve⟩) hworkspace rfl rfl

/-- A model that the catalog does not have is told on one line. -/
theorem validate_prints_lab :
    Invocation.ofArguments ["validate", "lab.yaml"]
        = .ok ⟨"topoforge.yaml", none, .validate "lab.yaml"⟩ ∧
      found (labTree "a") (Invocation.setup ⟨"topoforge.yaml", none, .serve⟩)
        = .ok ⟨.default, .builtin⟩ ∧
      found (labTree "a") (Topology.load "lab.yaml") = .ok (lab "a") ∧
      (lab "a").validate Catalog.builtin.inventory Project.default.rules
        = ["devices[0] \"R1\": unknown device model \"a\""] ∧
      ∃ run, (ofArguments ["validate", "lab.yaml"] [] : StateM FileTree Run).run (labTree "a")
          = (run, labTree "a") ∧
        run.code = 1 ∧ run.report = "Error: 1 validation error(s)\n" ∧
        outputLines run.output = ["devices[0] \"R1\": unknown device model \"a\"".toList] := by
  have hloaded : found (labTree "a") (Topology.load "lab.yaml") = .ok (lab "a") := by
    decide +kernel
  have hdiagnostics : (lab "a").validate Catalog.builtin.inventory Project.default.rules
      = ["devices[0] \"R1\": unknown device model \"a\""] := by
    decide +kernel
  obtain ⟨run, hrun, hcode, hreport, hlines, -⟩ :=
    validate_prints ofArguments_validate_lab (found_setup_lab "a") hloaded
      (hdiagnostics.trans_ne (List.cons_ne_nil _ _)) []
  refine ⟨ofArguments_validate_lab, found_setup_lab "a", hloaded, hdiagnostics, run, hrun, hcode,
    ?_, ?_⟩
  · rw [hreport]
    dsimp only
    rw [hdiagnostics]
    decide
  · rw [hlines]
    dsimp only
    rw [hdiagnostics]
    decide

/-- A line break in the name of a model makes two lines of one diagnostic. -/
theorem validate_splits_diagnostic :
    Invocation.ofArguments ["validate", "lab.yaml"]
        = .ok ⟨"topoforge.yaml", none, .validate "lab.yaml"⟩ ∧
      found (labTree "a\\nb") (Invocation.setup ⟨"topoforge.yaml", none, .serve⟩)
        = .ok ⟨.default, .builtin⟩ ∧
      found (labTree "a\\nb") (Topology.load "lab.yaml") = .ok (lab "a\nb") ∧
      ∃ run, (ofArguments ["validate", "lab.yaml"] [] : StateM FileTree Run).run (labTree "a\\nb")
          = (run, labTree "a\\nb") ∧
        run.code = 1 ∧ run.report = "Error: 1 validation error(s)\n" ∧
        ((lab "a\nb").validate Catalog.builtin.inventory Project.default.rules).length = 1 ∧
        outputLines run.output
          = ["devices[0] \"R1\": unknown device model \"a".toList, "b\"".toList] := by
  have hloaded : found (labTree "a\\nb") (Topology.load "lab.yaml") = .ok (lab "a\nb") := by
    decide +kernel
  have hdiagnostics : (lab "a\nb").validate Catalog.builtin.inventory Project.default.rules
      = ["devices[0] \"R1\": unknown device model \"a\nb\""] := by
    decide +kernel
  have hrun := run_validate_problems ofArguments_validate_lab (found_setup_lab "a\\nb") hloaded
    (hdiagnostics.trans_ne (List.cons_ne_nil _ _)) []
  dsimp only at hrun
  rw [hdiagnostics] at hrun
  refine ⟨ofArguments_validate_lab, found_setup_lab _, hloaded, _, hrun, rfl, ?_, ?_, ?_⟩
  · decide
  · rw [hdiagnostics]
    rfl
  · decide +kernel

end Run

end NetDraft
