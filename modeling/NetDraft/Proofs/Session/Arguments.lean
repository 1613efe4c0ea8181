/-
The arguments of the append tools.

A request to append is read as an append of the entity that its arguments show, and as nothing
else, so everything about its answer follows from two questions: is there such an entity, and has
it all the texts that it cannot do without.  The tools are not looked at one by one after that.
-/
import NetDraft.Proofs.Entity.Given
import NetDraft.Proofs.Session.Log
import NetDraft.Proofs.Topology.Entities

namespace NetDraft

/-! ### Required texts -/

/-- An entity is accepted if none of the texts among its values is empty. -/
theorem Entity.check_eq_ok {e : Entity} : e.check = .ok () ↔ FieldValue.text "" ∉ e.values := by
  have hfind : e.check = .ok () ↔ e.requiredTexts.find? (fun field => field.2.isEmpty) = none := by
    unfold check
    cases e.requiredTexts.find? fun field => field.2.isEmpty <;> simp
  rw [hfind, List.find?_eq_none]
  cases e <;> simp [requiredTexts, values, eq_comm (a := "")]

/-! ### Requests to append -/

theorem AppendTool.name_injective {tool tool' : AppendTool} (h : tool.name = tool'.name) :
    tool = tool' := by
  cases tool <;> cases tool' <;> first | rfl | exact absurd h (by decide)

/-- The name of an append tool is that of no other tool. -/
theorem AppendTool.name_not_other (tool : AppendTool) :
    tool.name ≠ "reset" ∧ tool.name ∉ Request.queryTools := by
  cases tool <;> decide

/-- A request to append the entity names its tool, and its arguments show it. -/
theorem Request.appends_iff {r : Request} {e : Entity} :
    r.Appends e ↔ r.tool = e.tool.name ∧ e.ShownBy r.args := by
  cases e with
  | device => exact and_congr_right fun _ => ofJson_device
  | hardware => exact and_congr_right fun _ => ofJson_module
  | link => exact and_congr_right fun _ => ofJson_link
  | host => exact and_congr_right fun _ => ofJson_host
  | router => exact and_congr_right fun _ => ofJson_router

theorem Request.Appends.of_shown {v : Json} {e : Entity} (h : e.ShownBy v) :
    Request.Appends ⟨e.tool.name, v⟩ e := appends_iff.mpr ⟨rfl, h⟩

theorem Call.ofRequest_of_appends {r : Request} {e : Entity} (h : r.Appends e) :
    ofRequest r = .ok (.append e) := by
  obtain ⟨tool, args⟩ := r
  have hread : ∀ {α : Type} [Wire α] (make : α → Entity) (tool : String) (a : α),
      Wire.ofJson args = .ok a → readEntity make ⟨tool, args⟩ = .ok (.append (make a)) := by
    intro α _ make tool a ha
    unfold readEntity readArgs
    rw [ha]
    rfl
  cases e <;> obtain ⟨htool, hargs⟩ := h <;> subst htool <;> exact hread _ _ _ hargs

/-- What no entity is shown by is refused. -/
theorem Call.ofRequest_append_error {tool : AppendTool} {v : Json}
    (h : ¬∃ e : Entity, e.tool = tool ∧ e.ShownBy v) :
    ∃ fault, ofRequest ⟨tool.name, v⟩ = .error fault := by
  cases hcall : ofRequest ⟨tool.name, v⟩ with
  | error fault => exact ⟨fault, rfl⟩
  | ok call =>
      rcases ofRequest_cases hcall with ⟨hreset, -⟩ | ⟨e, happends, -⟩ | ⟨hquery, -⟩
      · exact absurd hreset tool.name_not_other.1
      · obtain ⟨htool, hshown⟩ := Request.appends_iff.mp happends
        exact absurd ⟨e, (AppendTool.name_injective htool).symm, hshown⟩ h
      · exact absurd hquery tool.name_not_other.2

/-! ### Answers to them -/

namespace Service

variable (s : Service) (t : Topology) {tool : AppendTool} {v : Json}

/-- The entity that a request appends is appended unless it lacks a text. -/
theorem answer_of_appends {r : Request} {e : Entity} (h : r.Appends e) :
    s.answer t (Call.ofRequest r) = match e.check with
      | .ok () => (t.push e, .done)
      | .error fault => (t, .refused (.emptyField fault)) := by
  rw [Call.ofRequest_of_appends h]
  simp only [answer, perform, Topology.append]
  cases e.check <;> rfl

theorem answer_complete {r : Request} {e : Entity} (h : r.Appends e)
    (htexts : FieldValue.text "" ∉ e.values) :
    s.answer t (Call.ofRequest r) = (t.push e, .done) := by
  rw [s.answer_of_appends t h, Entity.check_eq_ok.mpr htexts]

/-- Everything else is refused. -/
theorem answer_incomplete
    (h : ¬∃ e : Entity, e.tool = tool ∧ e.ShownBy v ∧ FieldValue.text "" ∉ e.values) :
    ∃ fault, s.answer t (Call.ofRequest ⟨tool.name, v⟩) = (t, .refused fault) := by
  by_cases hshown : ∃ e : Entity, e.tool = tool ∧ e.ShownBy v
  · obtain ⟨e, rfl, hv⟩ := hshown
    rw [s.answer_of_appends t (.of_shown hv)]
    cases hcheck : e.check with
    | ok => exact absurd ⟨e, rfl, hv, Entity.check_eq_ok.mp hcheck⟩ h
    | error fault => exact ⟨_, rfl⟩
  · obtain ⟨fault, hcall⟩ := Call.ofRequest_append_error hshown
    exact ⟨fault, by rw [hcall]; rfl⟩

/-- What can come of a request to append: the entity that is shown is appended, or there is none
with all its texts and nothing happens. -/
theorem answer_append_cases (tool : AppendTool) (v : Json) :
    (∃ e : Entity, (e.tool = tool ∧ e.ShownBy v ∧ FieldValue.text "" ∉ e.values) ∧
      s.answer t (Call.ofRequest ⟨tool.name, v⟩) = (t.push e, .done)) ∨
    (¬∃ e : Entity, e.tool = tool ∧ e.ShownBy v ∧ FieldValue.text "" ∉ e.values) ∧
      ∃ fault, s.answer t (Call.ofRequest ⟨tool.name, v⟩) = (t, .refused fault) := by
  by_cases hsome : ∃ e : Entity, e.tool = tool ∧ e.ShownBy v ∧ FieldValue.text "" ∉ e.values
  · obtain ⟨e, rfl, hv, htexts⟩ := hsome
    have hanswer := s.answer_complete t (.of_shown hv) htexts
    exact Or.inl ⟨e, ⟨rfl, hv, htexts⟩, hanswer⟩
  · exact Or.inr ⟨hsome, s.answer_incomplete t hsome⟩

/-- Arguments that show the same entities have the same effect. -/
theorem answer_append_congr {v v' : Json}
    (h : ∀ e : Entity, e.tool = tool → (e.ShownBy v ↔ e.ShownBy v')) :
    (s.answer t (Call.ofRequest ⟨tool.name, v⟩)).1
        = (s.answer t (Call.ofRequest ⟨tool.name, v'⟩)).1 ∧
      (s.answer t (Call.ofRequest ⟨tool.name, v⟩)).2.saysOk
        = (s.answer t (Call.ofRequest ⟨tool.name, v'⟩)).2.saysOk := by
  rcases s.answer_append_cases t tool v with ⟨e, ⟨rfl, hv, htexts⟩, hanswer⟩ | ⟨hnone, _, hanswer⟩
  · have hv' := (h e rfl).mp hv
    rw [hanswer, s.answer_complete t (.of_shown hv') htexts]
    exact ⟨rfl, rfl⟩
  · have hnone' : ¬∃ e : Entity, e.tool = tool ∧ e.ShownBy v' ∧ FieldValue.text "" ∉ e.values := by
      rintro ⟨e, htool, hv', htexts⟩
      exact hnone ⟨e, htool, (h e htool).mpr hv', htexts⟩
    obtain ⟨_, hanswer'⟩ := s.answer_incomplete t hnone'
    rw [hanswer, hanswer']
    exact ⟨rfl, rfl⟩

/--
**An append tool accepts just the entities of its sort.**

Arguments are accepted if they show an entity that lacks no text, which then is appended as it is,
at the end of the list of its sort and of no other one, and otherwise nothing changes.  An array is
as good as an object with the same values.
-/
theorem append_accepts_entities (tool : AppendTool) (v : Json) :
    ((s.answer t (Call.ofRequest ⟨tool.name, v⟩)).2.saysOk = true ↔
        ∃ e : Entity, e.tool = tool ∧ e.ShownBy v ∧ FieldValue.text "" ∉ e.values) ∧
      (∀ e : Entity, e.tool = tool → e.ShownBy v → FieldValue.text "" ∉ e.values →
        s.answer t (Call.ofRequest ⟨tool.name, v⟩) = (t.push e, .done) ∧
          t.Gains e (s.answer t (Call.ofRequest ⟨tool.name, v⟩)).1) ∧
      ((s.answer t (Call.ofRequest ⟨tool.name, v⟩)).2.saysOk = false →
        (s.answer t (Call.ofRequest ⟨tool.name, v⟩)).1 = t) ∧
      (∀ items members, v = .array items → items.length ≤ tool.fieldNames.length →
        members.Perm (tool.fieldNames.zip items) →
        (s.answer t (Call.ofRequest ⟨tool.name, .object members⟩)).1
            = (s.answer t (Call.ofRequest ⟨tool.name, v⟩)).1 ∧
          (s.answer t (Call.ofRequest ⟨tool.name, .object members⟩)).2.saysOk
            = (s.answer t (Call.ofRequest ⟨tool.name, v⟩)).2.saysOk) := by
  have hcases := s.answer_append_cases t tool v
  refine ⟨⟨?_, ?_⟩, ?_, ?_, ?_⟩
  · intro hok
    rcases hcases with ⟨e, he, -⟩ | ⟨-, _, hanswer⟩
    · exact ⟨e, he⟩
    · rw [hanswer] at hok
      cases hok
  · intro hsome
    rcases hcases with ⟨e, -, hanswer⟩ | ⟨hnone, -⟩
    · rw [hanswer]
      rfl
    · exact absurd hsome hnone
  · rintro e rfl hv htexts
    have hanswer := s.answer_complete t (.of_shown hv) htexts
    exact ⟨hanswer, by rw [hanswer]; exact t.gains_push e⟩
  · intro hnot
    rcases hcases with ⟨e, -, hanswer⟩ | ⟨-, _, hanswer⟩
    · rw [hanswer] at hnot
      cases hnot
    · rw [hanswer]
  · rintro items members rfl hlength hperm
    refine s.answer_append_congr t ?_
    rintro e rfl
    exact Entity.shownBy_object_iff_array hlength hperm

end Service

end NetDraft
