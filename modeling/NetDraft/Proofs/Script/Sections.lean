/-
Which lines of a script belong to which section.

A line begins with its call and a parenthesis, and the call alone tells the section of the entity
behind it: no text of an entity stands in front of the first parenthesis, and no two sections have
the same call.  So the lines that begin with a call are the statements of one section, in their
order, and to count them is to count the entities of the section.  The comment of an empty script
begins with no call, and no statement is that comment.
-/
import NetDraft.Json
import NetDraft.Proofs.Script.Digest

namespace NetDraft

/-! ### Calls -/

namespace Section

/-- The call of the statements of a section. -/
def call : Section → String
  | devices => "addDevice"
  | modules => "addModule"
  | links => "addLink"
  | hosts => "configurePcIp"
  | routers => "configureIosDevice"

/-- Whether a line begins with the call of a section and a parenthesis. -/
def opens (sec : Section) (line : String) : Bool :=
  (sec.call.toList ++ ['(']).isPrefixOf line.toList

theorem call_ofEntity (e : Entity) : (Statement.ofEntity e).call = (ofEntity e).call := by
  cases e <;> rfl

theorem call_injective : Function.Injective call := by
  intro a b h
  cases a <;> cases b <;> first | rfl | exact absurd h (by decide)

theorem paren_notMem_call (sec : Section) : '(' ∉ sec.call.toList := by
  cases sec <;> decide

/-- What a line begins with tells the call of its statement. -/
theorem opens_render {s : Statement} (h : s.IsCall) (sec : Section) :
    sec.opens s.render = true ↔ sec.call = s.call := by
  rw [opens, List.isPrefixOf_iff_prefix, Statement.render, String.toList_ofList, Statement.chars]
  constructor
  · rintro ⟨rest, hrest⟩
    rw [List.append_assoc, List.singleton_append] at hrest
    have hpieces := congrArg (Text.pieces '(') hrest
    rw [Text.pieces_append_cons sec.paren_notMem_call, Text.pieces_append_cons h.paren_not_mem]
      at hpieces
    exact String.toList_inj.mp (List.cons.inj hpieces).1
  · intro hcall
    rw [hcall]
    exact ⟨_, List.append_assoc _ _ _⟩

/-- **The line of an entity begins with the call of its own section, and with no other.** -/
theorem opens_ofEntity (sec : Section) (e : Entity) :
    sec.opens (Statement.ofEntity e).render = true ↔ sec = ofEntity e := by
  rw [opens_render (Statement.isCall_ofEntity e), call_ofEntity, call_injective.eq_iff]

end Section

/-! ### Lines of a section -/

/-- The entities of a section are those that belong to it. -/
theorem Topology.filter_entities (t : Topology) (sec : Section) :
    (t.entities.filter fun e => sec = Section.ofEntity e) = t.entitiesIn sec := by
  cases sec <;>
    simp [entities, entitiesIn, Section.ofEntity, List.filter_map, Function.comp_def]

namespace Script

theorem lines_eq_nil_or (t : Topology) : (t.entities = [] ∧ (ofTopology t).lines = [emptyLine]) ∨
    (t.entities ≠ [] ∧
      (ofTopology t).lines = t.entities.map fun e => (Statement.ofEntity e).render) := by
  rw [lines_ofTopology]
  by_cases h : t.entities = []
  · exact .inl ⟨h, by simp [Topology.statements, h]⟩
  · exact .inr ⟨h, by simp [Topology.statements, h]⟩

/-- **The lines that begin with the call of a section are the statements of its entities.** -/
theorem filter_opens (t : Topology) (sec : Section) : (ofTopology t).lines.filter sec.opens
    = (t.entitiesIn sec).map fun e => (Statement.ofEntity e).render := by
  rw [← t.filter_entities sec]
  rcases lines_eq_nil_or t with ⟨hnone, hlines⟩ | ⟨-, hlines⟩
  · have hcomment : sec.opens emptyLine = false := by cases sec <;> decide
    rw [hnone, hlines, List.filter_singleton, hcomment]
    rfl
  · have hopens : sec.opens ∘ (fun e => (Statement.ofEntity e).render)
        = fun e => decide (sec = Section.ofEntity e) := by
      funext e
      rw [Function.comp_apply, Bool.eq_iff_iff, sec.opens_ofEntity, decide_eq_true_eq]
    rw [hlines, List.filter_map, hopens]

theorem isEmptyTopology_iff (t : Topology) :
    (ofTopology t).isEmptyTopology = true ↔ t.entities = [] := by
  rw [isEmptyTopology, beq_iff_eq]
  rcases lines_eq_nil_or t with ⟨hnone, hlines⟩ | ⟨hsome, hlines⟩
  · exact iff_of_true hlines hnone
  · refine iff_of_false (fun hcomment => ?_) hsome
    rw [hlines, List.map_eq_singleton_iff] at hcomment
    obtain ⟨e, -, he⟩ := hcomment
    exact (Statement.ofEntity e).render_ne_emptyLine he

theorem statementCount_ofTopology (t : Topology) :
    (ofTopology t).statementCount = t.entities.length := by
  rw [statementCount]
  by_cases h : t.entities = []
  · rw [if_pos ((isEmptyTopology_iff t).mpr h), h, List.length_nil]
  · have hlines := ((lines_eq_nil_or t).resolve_left fun hnone => h hnone.1).2
    rw [if_neg (mt (isEmptyTopology_iff t).mp h), hlines, List.length_map]

end Script

/-! ### First arguments -/

namespace Statement

/-- The text of the first argument of a line, as far as the reader takes it. -/
def firstArgument? (line : String) : Option String :=
  let args := (line.toList.dropWhile (· != '(')).drop 1
  (Literal.read? args).map fun (_, rest) => String.ofList (args.take (args.length - rest.length))

/-- The reader stops behind the first argument, whatever texts it and the others hold. -/
theorem firstArgument?_render {s : Statement} (h : s.IsCall) {l : Literal} {others : List Literal}
    (hargs : s.args = l :: others) : firstArgument? s.render = some l.render := by
  obtain ⟨rest, hchars, hends, hquote⟩ : ∃ rest,
      s.chars = s.call.toList ++ '(' :: (l.chars ++ rest) ∧
        Text.Ends Literal.isTokenChar rest ∧ rest.head? ≠ some '"' := by
    cases others with
    | nil => exact ⟨[')', ';'], by simp [chars, hargs, Text.joined],
        by simp [Text.Ends, Literal.isTokenChar], by simp⟩
    | cons second others => exact ⟨',' :: ' ' ::
        (Text.joined [',', ' '] ((second :: others).map Literal.chars) ++ [')', ';']),
        by simp [chars, hargs, Text.joined], by simp [Text.Ends, Literal.isTokenChar], by simp⟩
  have hdrop : s.chars.dropWhile (· != '(') = '(' :: (l.chars ++ rest) := by
    rw [hchars]
    refine Text.dropWhile_run (fun c hc => ?_) (by simp [Text.Ends])
    rw [bne_iff_ne]
    rintro rfl
    exact h.paren_not_mem hc
  rw [firstArgument?, render, String.toList_ofList, hdrop, List.drop_one, List.tail_cons,
    l.read?_chars hends hquote]
  simp [Literal.render]

end Statement

/-- The lines that add devices begin with the names of the devices. -/
theorem Script.firstArguments_devices (t : Topology) :
    ((ofTopology t).lines.filter Section.devices.opens).map Statement.firstArgument?
      = t.deviceNames.map fun name => some (Json.string name).compact := by
  have hfirst : ∀ d : Device, Statement.firstArgument? (Statement.ofEntity (.device d)).render
      = some (Literal.text d.name).render := fun d =>
    Statement.firstArgument?_render (Statement.isCall_ofEntity _) rfl
  have hliteral : ∀ name, (Literal.text name).render = (Json.string name).compact := fun _ => rfl
  rw [filter_opens, Topology.entitiesIn, Topology.deviceNames, List.map_map, List.map_map,
    List.map_map]
  refine List.map_congr_left fun d _ => ?_
  rw [Function.comp_apply, Function.comp_apply, Function.comp_apply, hfirst, hliteral]

/-! ### Counts -/

/-- How many entities of a section there are. -/
def Summary.count (s : Summary) : Section → Nat
  | .devices => s.devices
  | .modules => s.modules
  | .links => s.links
  | .hosts => s.hosts
  | .routers => s.routers

namespace Topology

theorem length_entitiesIn (t : Topology) (sec : Section) :
    (t.entitiesIn sec).length = t.summary.count sec := by
  cases sec <;> exact List.length_map _

theorem length_entities (t : Topology) : t.entities.length = t.summary.devices
    + t.summary.modules + t.summary.links + t.summary.hosts + t.summary.routers := by
  simp only [entities, List.length_append, List.length_map, summary]

theorem isEmpty_iff (t : Topology) : t.isEmpty = true ↔ t.entities = [] := by
  simp [isEmpty, entities, and_assoc]

/--
**A script has as many statements of each section as the summary counts entities.**

Every script has a line.  It says that there is nothing to build exactly if there is nothing, and
else its statements are as many as all entities.  The lines that begin with the call of a section
are as many as the entities of the section, and the first arguments of those that add devices are
the names of the devices in JSON.  The line of an entity is not the comment of an empty script, and
it begins with the call of the section to which the entity belongs and with no other.
-/
theorem script_agrees_with_summary (t : Topology) :
    let script := Script.ofTopology t
    let summary := t.summary
    script.lines ≠ [] ∧
      (script.isEmptyTopology = true ↔ t.isEmpty = true) ∧
      script.statementCount = summary.devices + summary.modules + summary.links + summary.hosts
        + summary.routers ∧
      (∀ sec : Section, (script.lines.filter sec.opens).length = summary.count sec) ∧
      (script.lines.filter Section.devices.opens).map Statement.firstArgument?
        = summary.deviceNames.map (fun name => some (Json.string name).compact) ∧
      ∀ e : Entity, (Statement.ofEntity e).render ≠ Script.emptyLine ∧
        ∀ sec : Section, sec.opens (Statement.ofEntity e).render = true ↔ sec = .ofEntity e := by
  refine ⟨Script.lines_ne_nil t, ?_, ?_, fun sec => ?_, Script.firstArguments_devices t,
    fun e => ⟨(Statement.ofEntity e).render_ne_emptyLine, fun sec => sec.opens_ofEntity e⟩⟩
  · rw [Script.isEmptyTopology_iff, isEmpty_iff]
  · rw [Script.statementCount_ofTopology, length_entities]
  · rw [Script.filter_opens, List.length_map, length_entitiesIn]

end Topology

end NetDraft
