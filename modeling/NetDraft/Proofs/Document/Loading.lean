/-
Loading a document.

A section is loaded by appending its entities in turn, and nothing else can go wrong than that an
entity fails the check of an append.  So a document loads if all its entities pass, and then every
list of the topology is a section of the document.
-/
import NetDraft.Document
import NetDraft.Proofs.Outcome
import NetDraft.Proofs.Topology.Entities

namespace NetDraft

namespace Topology

theorem append_eq_ok {t t' : Topology} {e : Entity} :
    t.append e = .ok t' ↔ e.check = .ok () ∧ t' = t.push e := by
  cases hcheck : e.check with
  | error fault => simp [append, hcheck, bind, Except.bind]
  | ok => simp [append, hcheck, bind, Except.bind, pure, Except.pure, eq_comm]

theorem append_eq_error {t : Topology} {e : Entity} {fault : EmptyField} :
    t.append e = .error fault ↔ e.check = .error fault := by
  cases hcheck : e.check with
  | error fault' => simp [append, hcheck, bind, Except.bind]
  | ok => simp [append, hcheck, bind, Except.bind, pure, Except.pure]

end Topology

namespace Document

/-- The topology that has the sections of the document for its lists. -/
def listed (d : Document) : Topology := ⟨d.devices, d.modules, d.links, d.hosts, d.routers⟩

/-- A section is loaded by appends alone. -/
theorem appendSection_eq_ok {name : String} {t' : Topology} (es : List Entity) : ∀ i t,
    appendSection name i t es = .ok t' ↔
      (∀ e ∈ es, e.check = .ok ()) ∧ t' = es.foldl Topology.push t := by
  induction es with
  | nil => simp [appendSection, eq_comm]
  | cons e es ih =>
      intro i t
      rw [appendSection, List.forall_mem_cons, List.foldl_cons]
      cases happend : t.append e with
      | ok next =>
          obtain ⟨hcheck, rfl⟩ := Topology.append_eq_ok.mp happend
          simp only [ih, hcheck, true_and]
      | error reason =>
          have hcheck : e.check ≠ .ok () := by
            intro hcheck
            rw [Topology.append_eq_ok.mpr ⟨hcheck, rfl⟩] at happend
            cases happend
          simp [hcheck]

/-- **A document loads if every entity passes its check, and then it is loaded as it is.** -/
theorem topology_eq_ok {d : Document} {t : Topology} :
    d.topology = .ok t ↔ (∀ e ∈ d.listed.entities, e.check = .ok ()) ∧ t = d.listed := by
  have hall := Topology.ofEntities_entities d.listed
  rw [Topology.ofEntities, Topology.entities] at hall
  simp only [List.foldl_append] at hall
  simp only [topology, Outcome.bind_eq_ok, appendSection_eq_ok, Topology.entities,
    List.forall_mem_append]
  constructor
  · rintro ⟨_, ⟨hdevices, rfl⟩, _, ⟨hmodules, rfl⟩, _, ⟨hlinks, rfl⟩, _, ⟨hhosts, rfl⟩, hrouters,
      rfl⟩
    exact ⟨⟨⟨⟨⟨hdevices, hmodules⟩, hlinks⟩, hhosts⟩, hrouters⟩, hall⟩
  · rintro ⟨⟨⟨⟨⟨hdevices, hmodules⟩, hlinks⟩, hhosts⟩, hrouters⟩, rfl⟩
    exact ⟨_, ⟨hdevices, rfl⟩, _, ⟨hmodules, rfl⟩, _, ⟨hlinks, rfl⟩, _, ⟨hhosts, rfl⟩, hrouters,
      hall.symm⟩

end Document

end NetDraft
