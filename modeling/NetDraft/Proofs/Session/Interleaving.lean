/-
A session agrees with a document.

The log of a session tells which entities were appended, in the order of the whole session.  The
topology forgets how entities of different sorts came after one another, so that it is the one of
a document as soon as the entities of each sort came as in its section.  From there on nothing
that can be asked of the session is answered otherwise than for the document.
-/
import NetDraft.Proofs.Document.Loading
import NetDraft.Proofs.Session.RoundTrip

namespace NetDraft

/-! ### What was appended -/

/-- The entity that an exchange appended, if it was an accepted append. -/
def Exchange.appended? (x : Exchange) : Option Entity :=
  if x.2.saysOk then
    match (Request.ofBytes? x.1).map Call.ofRequest with
    | some (.ok (.append e)) => some e
    | _ => none
  else none

open Exchange

namespace Exchange

variable {line : ByteArray} {r : Request}

theorem appended?_of_appends {e : Entity} (hr : Request.ofBytes? line = some r)
    (happends : r.Appends e) : appended? (line, .done) = some e := by
  have hcall : (Request.ofBytes? line).map Call.ofRequest = some (.ok (.append e)) := by
    rw [hr, Option.map_some, Call.ofRequest_of_appends happends]
  show (match (Request.ofBytes? line).map Call.ofRequest with
    | some (.ok (.append e)) => some e
    | _ => none) = some e
  rw [hcall]

theorem appended?_of_query {a : Answer} (hr : Request.ofBytes? line = some r)
    (htool : r.tool ∈ Request.queryTools) : appended? (line, a) = none := by
  unfold appended?
  split
  · split
    · next e hcall =>
        rw [hr, Option.map_some, Option.some.injEq] at hcall
        rcases Call.ofRequest_cases hcall with ⟨-, h⟩ | ⟨e', happends, -⟩ | ⟨-, h⟩
        · cases h
        · exact absurd (Request.tool_of_appends happends).1
            (Request.not_changing_of_query r.tool htool)
        · exact h.elim
    · rfl
  · rfl

end Exchange

namespace Service

variable (s : Service)

/-- The lines of a new session with their answers. -/
def log (lines : List ByteArray) : List Exchange := lines.zip (s.handleAll .empty lines).2

/-- A line that is no accepted reset does to the topology what it appended. -/
theorem Handles.eq_push {t : Topology} {line : ByteArray} {out : Topology × Answer}
    (h : Handles t line out) (hreset : accepts "reset" (line, out.2) = false) :
    out.1 = (appended? (line, out.2)).toList.foldl Topology.push t := by
  cases h with
  | reset r hr htool =>
      rw [accepts_eq hr, htool] at hreset
      cases hreset
  | append r e hr happends =>
      rw [appended?_of_appends hr happends]
      rfl
  | query r a hr htool =>
      rw [appended?_of_query hr htool]
      rfl
  | refused fault => rfl

/-- **A run without resets appends what its log says that it appended.** -/
theorem handleAll_eq_foldl (lines : List ByteArray) : ∀ t,
    (∀ x ∈ lines.zip (s.handleAll t lines).2, accepts "reset" x = false) →
      (s.handleAll t lines).1
        = ((lines.zip (s.handleAll t lines).2).filterMap appended?).foldl Topology.push t := by
  induction lines with
  | nil => exact fun _ _ => rfl
  | cons line lines ih =>
      intro t hreset
      have hzip : (line :: lines).zip (s.handleAll t (line :: lines)).2
          = (line, (s.handle t line).2)
            :: lines.zip (s.handleAll (s.handle t line).1 lines).2 := rfl
      rw [hzip] at hreset ⊢
      have hline := (s.handles t line).eq_push (hreset _ List.mem_cons_self)
      have hlines := ih (s.handle t line).1 fun x hx => hreset x (List.mem_cons_of_mem _ hx)
      show (s.handleAll (s.handle t line).1 lines).1 = _
      rw [hlines, List.filterMap_cons]
      cases happended : appended? (line, (s.handle t line).2) with
      | none | some e =>
          rw [happended] at hline
          rw [hline]
          rfl

end Service

/-! ### Interleavings -/

/-- The entities are those of the document, and those of each section stand in its order. -/
structure Document.Interleaves (d : Document) (es : List Entity) : Prop where
  devices : es.filterMap Entity.device? = d.devices
  modules : es.filterMap Entity.hardware? = d.modules
  links : es.filterMap Entity.link? = d.links
  hosts : es.filterMap Entity.host? = d.hosts
  routers : es.filterMap Entity.router? = d.routers

theorem Document.Interleaves.ofEntities_eq {d : Document} {es : List Entity}
    (h : d.Interleaves es) : Topology.ofEntities es = d.listed := by
  rw [Topology.ofEntities_eq, h.devices, h.modules, h.links, h.hosts, h.routers]
  rfl

/-! ### Sending an interleaving -/

/-- The line that appends an entity. -/
def Entity.line (e : Entity) : String :=
  (Json.object [("tool", .string e.tool.name), ("args", e.toJson)]).compact

theorem Request.ofBytes?_line {e : Entity} (hwhole : e.Whole) :
    ∃ r, ofBytes? e.line.toUTF8 = some r ∧ r.Appends e := by
  obtain ⟨members, hmembers⟩ := e.toJson_eq_object
  have hshown : e.ShownBy (.object members) := hmembers ▸ e.shownBy_toJson
  obtain ⟨r, hline, happends⟩ := ofLine_appends hshown hwhole (.refl _)
  refine ⟨r, ?_, happends⟩
  rw [Entity.line, hmembers, ofBytes?_toUTF8, hline]
  rfl

namespace Service

variable (s : Service)

theorem handle_line {e : Entity} (hwhole : e.Whole) (htexts : FieldValue.text "" ∉ e.values)
    (t : Topology) : s.handle t e.line.toUTF8 = (t.push e, .done) := by
  obtain ⟨r, hr, happends⟩ := Request.ofBytes?_line hwhole
  rw [s.handle_of_request t hr, s.answer_complete t happends htexts]

/-- **Entities with all their texts, sent in any order, are appended in that order.** -/
theorem handleAll_lines {es : List Entity}
    (h : ∀ e ∈ es, e.Whole ∧ FieldValue.text "" ∉ e.values) : ∀ t,
    s.handleAll t (es.map fun e => e.line.toUTF8)
      = (es.foldl Topology.push t, es.map fun _ => .done) := by
  induction es with
  | nil => exact fun _ => rfl
  | cons e es ih =>
      intro t
      obtain ⟨hwhole, htexts⟩ := h e List.mem_cons_self
      have hrest := ih (fun e' he' => h e' (List.mem_cons_of_mem _ he')) (t.push e)
      rw [List.map_cons, handleAll, s.handle_line hwhole htexts]
      dsimp only
      rw [hrest]
      rfl

theorem log_lines {es : List Entity} (h : ∀ e ∈ es, e.Whole ∧ FieldValue.text "" ∉ e.values) :
    s.log (es.map fun e => e.line.toUTF8) = es.map fun e => (e.line.toUTF8, .done) := by
  rw [log, s.handleAll_lines h, List.zip_map']

/-- The log says that they were appended and that nothing was reset. -/
theorem appended_lines {es : List Entity}
    (h : ∀ e ∈ es, e.Whole ∧ FieldValue.text "" ∉ e.values) :
    (∀ x ∈ s.log (es.map fun e => e.line.toUTF8), accepts "reset" x = false) ∧
      (s.log (es.map fun e => e.line.toUTF8)).filterMap appended? = es := by
  rw [s.log_lines h]
  constructor
  · intro x hx
    obtain ⟨e, he, rfl⟩ := List.mem_map.mp hx
    obtain ⟨r, hr, happends⟩ := Request.ofBytes?_line (h e he).1
    rw [accepts_eq hr]
    simp [(Request.tool_of_appends happends).2]
  · rw [List.filterMap_map]
    refine (List.filterMap_congr fun e he => ?_).trans List.filterMap_some
    obtain ⟨r, hr, happends⟩ := Request.ofBytes?_line (h e he).1
    rw [Function.comp_apply]
    exact appended?_of_appends hr happends

end Service

/-! ### The answers at the end -/

namespace Service

variable (s : Service) {d : Document} {t : Topology} {lines : List ByteArray} {es : List Entity}

/-- A session that has appended an interleaving of the document has the topology of it. -/
theorem handleAll_of_interleaves (hreset : ∀ x ∈ s.log lines, accepts "reset" x = false)
    (hes : (s.log lines).filterMap appended? = es) (hd : d.Interleaves es) :
    (s.handleAll .empty lines).1 = d.listed := by
  rw [s.handleAll_eq_foldl lines .empty hreset, ← hd.ofEntities_eq, ← hes]
  rfl

/-- The arguments ask for a script that is validated or not; they may leave it to the service. -/
def AsksFor (s : Service) (validated : Bool) (args : Json) : Prop :=
  args ∈ [.object [("withValidation", .bool validated)], .array [.bool validated]] ∨
    args ∈ [.null, .object [], .object [("withValidation", .null)], .array [.null]] ∧
      validated = s.validate

theorem answer_generate {validated : Bool} {args : Json} (h : s.AsksFor validated args)
    (t : Topology) : s.answer t (Call.ofRequest ⟨"generate", args⟩)
      = (t, .result (t.compile s.inventory validated s.rules).toJson) := by
  simp only [AsksFor, List.mem_cons, List.not_mem_nil, or_false] at h
  rcases h with (rfl | rfl) | ⟨rfl | rfl | rfl | rfl, rfl⟩ <;> rfl

/--
The answers to lines that look at a session are those that a topology gives.

They carry its problems, its script or the reasons why there is none, its counts and the names of
its devices.
-/
structure Reports (s : Service) (session t : Topology) : Prop where
  validate : ∀ line r, Request.ofBytes? line = some r → r.tool = "validate" →
    (s.handle session line).2 = .result (.array ((t.validate s.inventory s.rules).map .string))
  script : ∀ line r validated script, Request.ofBytes? line = some r → r.tool = "generate" →
    s.AsksFor validated r.args → t.compile s.inventory validated s.rules = .script script →
      (s.handle session line).2 = .result (.object [("statements", .string script.text)])
  invalid : ∀ line r validated problems, Request.ofBytes? line = some r → r.tool = "generate" →
    s.AsksFor validated r.args → t.compile s.inventory validated s.rules = .invalid problems →
      (s.handle session line).2 = .result (.object [("valid", .bool false),
        ("errors", .array (problems.map .string))])
  summarize : ∀ line r, Request.ofBytes? line = some r → r.tool = "summarize" →
    (s.handle session line).2 = .result (.object [
      ("counts", .object [("devices", .ofNat t.summary.devices),
        ("modules", .ofNat t.summary.modules), ("links", .ofNat t.summary.links),
        ("pcConfigs", .ofNat t.summary.hosts), ("iosConfigs", .ofNat t.summary.routers)]),
      ("deviceNames", .array (t.summary.deviceNames.map .string))])

/-- A session reports on its own topology. -/
theorem reports_self (t : Topology) : s.Reports t t where
  validate line r hr htool := by
    obtain ⟨tool, args⟩ := r
    subst htool
    rw [s.handle_of_request t hr]
    rfl
  script line r validated script hr htool hasks hscript := by
    obtain ⟨tool, args⟩ := r
    subst htool
    rw [s.handle_of_request t hr, s.answer_generate hasks, hscript]
    rfl
  invalid line r validated problems hr htool hasks hproblems := by
    obtain ⟨tool, args⟩ := r
    subst htool
    rw [s.handle_of_request t hr, s.answer_generate hasks, hproblems]
    rfl
  summarize line r hr htool := by
    obtain ⟨tool, args⟩ := r
    subst htool
    rw [s.handle_of_request t hr]
    rfl

end Service

/-- A script is that of its topology, whether it was validated or not. -/
theorem Topology.eq_ofTopology_of_compile {t : Topology} {inv : Inventory} {validated : Bool}
    {rules : Rules} {script : Script} (h : t.compile inv validated rules = .script script) :
    script = .ofTopology t := by
  have hcompile : t.compile inv validated rules
      = if (if validated then t.validate inv rules else []).isEmpty then .script (.ofTopology t)
        else .invalid (if validated then t.validate inv rules else []) := rfl
  rw [hcompile] at h
  by_cases hnone : (if validated then t.validate inv rules else []).isEmpty
  · rw [if_pos hnone] at h
    exact (Compilation.script.inj h).symm
  · rw [if_neg hnone] at h
    cases h

/--
**A session agrees with a document, however its appends are interleaved.**

The document loads, and the accepted appends of the session are its entities, those of each
section in its order; queries and refused lines may stand anywhere.  What the session answers at
the end is what the loaded topology gives, and the statements of a script come sort by sort, those
of each sort in the order of their appends.
-/
theorem Service.session_agrees_with_document (s : Service) {d : Document} {t : Topology}
    {lines : List ByteArray} {es : List Entity} (hload : d.topology = .ok t)
    (hreset : ∀ x ∈ s.log lines, accepts "reset" x = false)
    (hes : (s.log lines).filterMap appended? = es) (hd : d.Interleaves es) :
    s.Reports (s.handleAll .empty lines).1 t ∧
      ∀ validated script, t.compile s.inventory validated s.rules = .script script →
        script = .ofTopology t ∧
          t.statements = ((es.filterMap Entity.device?).map Entity.device
            ++ (es.filterMap Entity.hardware?).map Entity.hardware
            ++ (es.filterMap Entity.link?).map Entity.link
            ++ (es.filterMap Entity.host?).map Entity.host
            ++ (es.filterMap Entity.router?).map Entity.router).map Statement.ofEntity := by
  obtain ⟨-, ht⟩ := Document.topology_eq_ok.mp hload
  have hsession : (s.handleAll .empty lines).1 = t :=
    (s.handleAll_of_interleaves hreset hes hd).trans ht.symm
  refine ⟨hsession ▸ s.reports_self t, fun validated script hscript => ⟨?_, ?_⟩⟩
  · exact Topology.eq_ofTopology_of_compile hscript
  · rw [hd.devices, hd.modules, hd.links, hd.hosts, hd.routers, ht]
    rfl

/-- Commands for a router, and only then the router. -/
def lateDevice : List Entity :=
  [.router ⟨"R1", "end"⟩, .device ⟨"R1", "2911", .ofNat 0, .ofNat 0⟩]

/-- The document that has both in their sections. -/
def lateDocument : Document := ⟨[⟨"R1", "2911", .ofNat 0, .ofNat 0⟩], [], [], [], [⟨"R1", "end"⟩]⟩

/-- The commands come first in the session and last in the document. -/
theorem Service.session_agrees_with_late_device :
    (⟨⟨fun _ => []⟩, ⟨true, true, true⟩, true⟩ : Service).Reports
      ((⟨⟨fun _ => []⟩, ⟨true, true, true⟩, true⟩ : Service).handleAll .empty
        (lateDevice.map fun e => e.line.toUTF8)).1 lateDocument.listed := by
  have hcomplete : ∀ e ∈ lateDevice, e.Whole ∧ FieldValue.text "" ∉ e.values := by
    intro e he
    simp only [lateDevice, List.mem_cons, List.not_mem_nil, or_false] at he
    rcases he with rfl | rfl
    · refine ⟨fun n hn => ?_, by decide⟩
      simp [Entity.values] at hn
    · refine ⟨fun n hn => ?_, by decide⟩
      simp only [Entity.values, List.mem_cons, FieldValue.position.injEq, reduceCtorEq,
        List.not_mem_nil, false_or, or_false, or_self] at hn
      exact ⟨_, _, hn⟩
  obtain ⟨hreset, hes⟩ := appended_lines ⟨⟨fun _ => []⟩, ⟨true, true, true⟩, true⟩ hcomplete
  have hload : lateDocument.topology = .ok lateDocument.listed := by rfl
  have hd : lateDocument.Interleaves lateDevice := ⟨rfl, rfl, rfl, rfl, rfl⟩
  exact (session_agrees_with_document _ hload hreset hes hd).1

end NetDraft
