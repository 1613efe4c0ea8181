/-
Where the loading of a document stops.

The sections are loaded in turn and every entity is checked as it is appended, so a document is
refused at the first entity that lacks a text.  Which one that is can be said without loading
anything: it stands at the least place, by section and then by position, of all entities that lack
a text, and the field that is blamed is the first of them in the order of declaration.  An append
of the entity alone, by a session or otherwise, blames the same field.
-/
import NetDraft.Proofs.Document.Loading
import NetDraft.Proofs.Session.Arguments

namespace NetDraft

/-! ### Required fields -/

/-- The text of a field that has to have one. -/
def FieldValue.text? : FieldValue → Option String
  | .text s => some s
  | _ => none

namespace Entity

/-- The field is required and empty, and no field declared before it is. -/
def FirstEmpty (e : Entity) (field : String) : Prop :=
  ∃ k : Nat, e.tool.fieldNames[k]? = some field ∧ e.values[k]? = some (FieldValue.text "") ∧
    ∀ j < k, e.values[j]? ≠ some (FieldValue.text "")

/-- What is checked of an entity are its texts, in the order of their declaration. -/
theorem requiredTexts_eq (e : Entity) : e.requiredTexts
    = (e.tool.fieldNames.zip e.values).filterMap fun field =>
        field.2.text?.map fun text => (field.1, text) := by
  cases e <;> rfl

theorem length_fieldNames (e : Entity) : e.tool.fieldNames.length = e.values.length := by
  cases e <;> rfl

/-- **The check blames the first field that is empty.** -/
theorem check_eq_error {e : Entity} {fault : EmptyField} (h : e.check = .error fault) :
    fault.entity = e.sort ∧ e.FirstEmpty fault.field := by
  have hempty : ∀ field : String × FieldValue,
      ((field.2.text?.map fun text => (field.1, text)).any fun field => field.2.isEmpty) = true
        ↔ field.2 = .text "" := by
    rintro ⟨name, value⟩
    cases value <;> simp [FieldValue.text?]
  unfold check at h
  rw [requiredTexts_eq, List.find?_filterMap] at h
  cases hfind : (e.tool.fieldNames.zip e.values).find? fun field =>
      (field.2.text?.map fun text => (field.1, text)).any fun field => field.2.isEmpty with
  | none =>
      rw [hfind] at h
      cases h
  | some found =>
      obtain ⟨hfound, k, hk, hget, hbefore⟩ := List.find?_eq_some_iff_getElem.mp hfind
      rw [hempty] at hfound
      rw [hfind, Option.bind_some, hfound] at h
      cases h
      rw [List.length_zip] at hk
      rw [List.getElem_zip] at hget
      refine ⟨rfl, k, ?_, ?_, ?_⟩
      · rw [← hget, List.getElem?_eq_getElem]
      · rw [← hfound, ← hget, List.getElem?_eq_getElem]
      · intro j hj hvalue
        have hlt : j < e.tool.fieldNames.length := by
          rw [length_fieldNames]
          exact (List.getElem?_eq_some_iff.mp hvalue).1
        have hzip : (e.tool.fieldNames.zip e.values)[j]?
            = some (e.tool.fieldNames[j], FieldValue.text "") :=
          List.getElem?_zip_eq_some.mpr ⟨List.getElem?_eq_getElem hlt, hvalue⟩
        have hfull := hbefore j hj
        rw [(List.getElem?_eq_some_iff.mp hzip).2, (hempty _).mpr rfl] at hfull
        cases hfull

end Entity

namespace Document

/-! ### Sections -/

/-- A section is refused at its first entity that is. -/
theorem appendSection_eq_error {name : String} {r : RefusedEntry} (es : List Entity) : ∀ i t,
    appendSection name i t es = .error r →
      ∃ k e, es[k]? = some e ∧ r = ⟨name, i + k, r.reason⟩ ∧ e.check = .error r.reason ∧
        ∀ j < k, ∀ e', es[j]? = some e' → e'.check = .ok () := by
  induction es with
  | nil => intro i t h; cases h
  | cons first rest ih =>
      intro i t h
      rw [appendSection] at h
      cases happend : t.append first with
      | error reason =>
          rw [happend] at h
          cases h
          exact ⟨0, first, rfl, rfl, Topology.append_eq_error.mp happend, by simp⟩
      | ok next =>
          rw [happend] at h
          obtain ⟨k, e, he, hr, hcheck, hbefore⟩ := ih (i + 1) next h
          refine ⟨k + 1, e, he, ?_, hcheck, ?_⟩
          · rw [hr, Nat.add_assoc, Nat.add_comm 1 k]
          · intro j hj e' he'
            cases j with
            | zero =>
                cases he'
                exact (Topology.append_eq_ok.mp happend).1
            | succ j => exact hbefore j (Nat.lt_of_succ_lt_succ hj) e' he'

/-- A place in a document stands before another one, in an earlier section or in the same one. -/
def Before (place place' : Section × Nat) : Prop :=
  place.1.number < place'.1.number ∨ place.1 = place'.1 ∧ place.2 < place'.2

/-- The sections are loaded in the order of their numbers. -/
theorem topology_eq_foldlM (d : Document) : d.topology
    = Section.all.foldlM (fun t s => appendSection s.name 0 t (d.listed.entitiesIn s)) .empty := by
  simp only [Section.all, List.foldlM_cons, List.foldlM_nil, bind_pure]
  rfl

/-- A document is refused at its first entity that is. -/
theorem topology_eq_error {d : Document} {r : RefusedEntry} (h : d.topology = .error r) :
    ∃ s i e, (d.listed.entitiesIn s)[i]? = some e ∧ r = ⟨s.name, i, r.reason⟩ ∧
      e.check = .error r.reason ∧
      ∀ s' i' e', Before (s', i') (s, i) → (d.listed.entitiesIn s')[i']? = some e' →
        e'.check = .ok () := by
  rw [topology_eq_foldlM] at h
  obtain ⟨before, s, after, t, hall, hbefore, hsection⟩ := Outcome.foldlM_eq_error h
  obtain ⟨i, e, he, hr, hcheck, hearlier⟩ := appendSection_eq_error _ 0 t hsection
  rw [Nat.zero_add] at hr
  refine ⟨s, i, e, he, hr, hcheck, ?_⟩
  rintro s' i' e' (hs' | ⟨rfl, hi'⟩) he'
  · -- The sections are ascending, so an earlier one is among those that were loaded.
    have hmem : s' ∈ before := by
      have hs := Section.mem_all s'
      have hascending := Section.all_ascending
      rw [hall] at hs hascending
      rcases List.mem_append.mp hs with hs | hs
      · exact hs
      · have hle := (List.pairwise_cons.mp (List.pairwise_append.mp hascending).2.1).1 s'
        rcases List.mem_cons.mp hs with rfl | hs
        · exact absurd hs' (Nat.lt_irrefl _)
        · exact absurd hs' (Nat.lt_asymm (hle hs))
    obtain ⟨_, _, hloaded⟩ := Outcome.exists_step_of_foldlM hbefore s' hmem
    exact ((appendSection_eq_ok _ 0 _).mp hloaded).1 e' (List.mem_of_getElem? he')
  · exact hearlier i' hi' e' he'

/-- A document loads if its sections hold no entity that lacks a text. -/
theorem exists_topology_iff (d : Document) : (∃ t, d.topology = .ok t) ↔
    ∀ s, ∀ e ∈ d.listed.entitiesIn s, FieldValue.text "" ∉ e.values := by
  simp only [topology_eq_ok, exists_and_left, exists_eq, and_true, ← Entity.check_eq_ok,
    Topology.entities_eq, List.mem_flatMap]
  constructor
  · intro h s e he
    exact h e ⟨s, Section.mem_all s, he⟩
  · rintro h e ⟨s, -, he⟩
    exact h s e he

/--
**A document is loaded as it is, or refused at the first entity that lacks a text.**

The first entity is that of the least section with such an entity, and the first there; the field
is its first empty one, and the reason is that for which any append of the entity is refused.
-/
theorem topology_refuses_first (d : Document) :
    ((∃ t, d.topology = .ok t) ↔
        ∀ s, ∀ e ∈ d.listed.entitiesIn s, FieldValue.text "" ∉ e.values) ∧
      (∀ t, d.topology = .ok t → t = d.listed) ∧
      ((¬∃ t, d.topology = .ok t) → ∃ s i e field,
        (d.listed.entitiesIn s)[i]? = some e ∧ e.FirstEmpty field ∧
          d.topology = .error ⟨s.name, i, ⟨e.sort, field⟩⟩ ∧
          (∀ s' i' e', Before (s', i') (s, i) → (d.listed.entitiesIn s')[i']? = some e' →
            FieldValue.text "" ∉ e'.values ∧ e'.check = .ok ()) ∧
          (∀ t : Topology, t.append e = .error ⟨e.sort, field⟩) ∧
          ∀ (service : Service) (t : Topology) (v : Json), e.ShownBy v →
            service.answer t (Call.ofRequest ⟨e.tool.name, v⟩)
              = (t, .refused (.emptyField ⟨e.sort, field⟩))) := by
  refine ⟨d.exists_topology_iff, fun t ht => (topology_eq_ok.mp ht).2, ?_⟩
  intro hnone
  cases hr : d.topology with
  | ok t => exact absurd ⟨t, hr⟩ hnone
  | error r =>
      obtain ⟨s, i, e, he, hplace, hcheck, hbefore⟩ := topology_eq_error hr
      obtain ⟨hsort, hfirst⟩ := Entity.check_eq_error hcheck
      have hreason : r.reason = ⟨e.sort, r.reason.field⟩ := by rw [← hsort]
      refine ⟨s, i, e, r.reason.field, he, hfirst, ?_, ?_, ?_, ?_⟩
      · rw [← hreason, ← hplace]
      · intro s' i' e' hplace' he'
        have hok := hbefore s' i' e' hplace' he'
        exact ⟨Entity.check_eq_ok.mp hok, hok⟩
      · intro t
        rw [← hreason]
        exact Topology.append_eq_error.mpr hcheck
      · intro service t v hv
        rw [service.answer_of_appends t (.of_shown hv), hcheck, ← hreason]

/-- The second link names its second device with an empty text. -/
example : topology ⟨[], [], [⟨⟨"R1", "Fa0/0"⟩, ⟨"S1", "Fa0/1"⟩, "Fiber"⟩,
    ⟨⟨"R1", "Fa0/1"⟩, ⟨"", "Fa0/2"⟩, ""⟩], [], []⟩
      = .error ⟨"links", 1, ⟨"link", "device2Name"⟩⟩ ∧
    RefusedEntry.message ⟨"links", 1, ⟨"link", "device2Name"⟩⟩
      = "links[1]: link.device2Name must not be empty" := ⟨by rfl, by rfl⟩

end Document

end NetDraft
