/-
Diagnostics of a topology that grows.

An entity is appended behind all others of its section, so it raises its doubts behind theirs, and
they raise the same doubts as before: `doubtsIn_push`.  Whether a doubt stands changes only with a
device, whose name is known from then on.  So an append adds diagnostics at one point, and all that
it can take away are those that did not know the name of the new device.
-/
import NetDraft.Proofs.Document.Loading
import NetDraft.Proofs.Validation.Doubts

namespace NetDraft

namespace Topology

variable (t : Topology) (inv : Inventory) (rules : Rules)

/-! ### Sections -/

/-- The diagnostics about the entities of a section. -/
def problemsIn (s : Section) : List Diagnostic :=
  (t.problems inv rules).filter fun x => x.subject.1 = s

theorem filter_doubts (s : Section) :
    (t.doubts.filter fun x => x.subject.1 = s) = t.doubtsIn s := by
  have hone : ∀ s', ((t.doubtsIn s').filter fun x => x.subject.1 = s)
      = if s' = s then t.doubtsIn s' else [] := by
    intro s'
    by_cases hs : s' = s
    · rw [if_pos hs, List.filter_eq_self]
      intro x hx
      simp [t.subject_of_mem_doubtsIn hx, hs]
    · rw [if_neg hs, List.filter_eq_nil_iff]
      intro x hx
      simp [t.subject_of_mem_doubtsIn hx, hs]
  rw [doubts, List.filter_flatMap]
  simp only [hone]
  cases s <;> simp [Section.reported]

theorem problemsIn_eq (s : Section) : t.problemsIn inv rules s
    = (t.doubtsIn s).filter (Diagnostic.stands t.deviceNames inv rules) := by
  rw [problemsIn, problems_eq_filter, List.filter_comm, filter_doubts]

/-- The diagnostics are those about the sections, one after the other. -/
theorem problems_eq_flatMap :
    t.problems inv rules = Section.reported.flatMap (t.problemsIn inv rules) := by
  rw [problems_eq_filter, doubts, List.filter_flatMap]
  exact List.flatMap_congr fun s _ => (t.problemsIn_eq inv rules s).symm

/-! ### One more entity -/

/-- The doubts about an entity that is appended. -/
def newDoubts : Entity → List Diagnostic
  | .device d => deviceDoubts t.devices t.devices.length d
  | .hardware m => moduleDoubts t.modules t.modules.length m
  | .link l => linkDoubts t.links t.links.length l
  | .host h => hostDoubts t.hosts.length h
  | .router r => routerDoubts t.routers.length r

theorem subject_of_mem_newDoubts {e : Entity} {x : Diagnostic} (h : x ∈ t.newDoubts e) :
    x.subject = (.ofEntity e, (t.entitiesIn (.ofEntity e)).length) := by
  cases e <;> simp only [Section.ofEntity, entitiesIn, List.length_map]
  case device => exact subject_of_mem_deviceDoubts h
  case hardware => exact subject_of_mem_moduleDoubts h
  case link => exact subject_of_mem_linkDoubts h
  case host => exact subject_of_mem_hostDoubts h
  case router => exact subject_of_mem_routerDoubts h

/-- **An entity adds its doubts behind those of its section.** -/
theorem doubtsIn_push (e : Entity) (s : Section) : (t.push e).doubtsIn s
    = t.doubtsIn s ++ if s = .ofEntity e then t.newDoubts e else [] := by
  by_cases hs : s = .ofEntity e
  · subst hs
    rw [if_pos rfl]
    cases e with
    | device d => exact flatMap_zipIdx_concat deviceDoubts t.devices d
    | hardware m => exact flatMap_zipIdx_concat moduleDoubts t.modules m
    | link l => exact flatMap_zipIdx_concat linkDoubts t.links l
    | host h => exact flatMap_zipIdx_concat (fun _ => hostDoubts) t.hosts h
    | router r => exact flatMap_zipIdx_concat (fun _ => routerDoubts) t.routers r
  · rw [if_neg hs, List.append_nil]
    cases e <;> cases s <;> first | rfl | exact absurd rfl hs

/-! ### Names that become known -/

theorem deviceNames_push_of_ne {e : Entity} (h : e.device? = none) :
    (t.push e).deviceNames = t.deviceNames := by
  cases e with
  | device d => cases h
  | _ => rfl

theorem deviceNames_push_device (d : Device) :
    (t.push (.device d)).deviceNames = t.deviceNames ++ [d.name] := by
  simp [push, deviceNames]

/-- One more name settles the doubts about it. -/
theorem stands_concat (names : List String) (name : String) (x : Diagnostic) :
    x.stands (names ++ [name]) inv rules
      = (decide (x.unknownDevice? ≠ some name) && x.stands names inv rules) := by
  unfold Diagnostic.stands
  cases x.unknownDevice? with
  | none => simp
  | some device => by_cases hname : device = name <;> simp [hname]

/-- The name of a device is in no doubt that stands. -/
theorem unknownDevice?_of_mem_problems {x : Diagnostic} (hx : x ∈ t.problems inv rules)
    {name : String} (hname : name ∈ t.deviceNames) : x.unknownDevice? ≠ some name := by
  intro hunknown
  rw [problems_eq_filter, List.mem_filter] at hx
  have hstands := hx.2
  simp [Diagnostic.stands, hunknown, hname] at hstands

/-- No diagnostic about a device is about a name that is not known. -/
theorem unknownDevice?_of_devices {x : Diagnostic} (h : x.subject.1 = .devices) :
    x.unknownDevice? = none := by
  cases x <;> first | rfl | cases h

/-! ### The diagnostics that come and go -/

/-- Those of the new doubts that stand come last in their section. -/
theorem problemsIn_push (e : Entity) (s : Section) : (t.push e).problemsIn inv rules s
    = (t.doubtsIn s).filter (Diagnostic.stands (t.push e).deviceNames inv rules)
      ++ if s = .ofEntity e then
          (t.newDoubts e).filter (Diagnostic.stands (t.push e).deviceNames inv rules)
        else [] := by
  rw [problemsIn_eq, doubtsIn_push, List.filter_append]
  by_cases hs : s = .ofEntity e <;> simp [hs]

/-- A device takes away the diagnostics that did not know its name. -/
theorem filter_doubtsIn_device (d : Device) (s : Section) :
    (t.doubtsIn s).filter (Diagnostic.stands (t.push (.device d)).deviceNames inv rules)
      = (t.problemsIn inv rules s).filter fun x => x.unknownDevice? ≠ some d.name := by
  rw [problemsIn_eq, List.filter_filter, deviceNames_push_device]
  exact List.filter_congr fun x _ => stands_concat inv rules _ _ x

/--
**Diagnostics of a topology that grows.**

The diagnostics are those of the sections, one section after the other.  An entity that is appended
and no device adds diagnostics about itself at the end of those about its section, and nothing else
changes.  A device does so too, and settles those that did not know its name; of the others none
changes.
-/
theorem validate_grows (t : Topology) (inv : Inventory) (rules : Rules) :
    (∀ t : Topology, t.validate inv rules
      = Section.reported.flatMap fun s => (t.problemsIn inv rules s).map Diagnostic.message) ∧
    (∀ (e : Entity) (t' : Topology), t.append e = .ok t' → t' = t.push e) ∧
    (∀ x : Diagnostic, ∃ rest,
      x.message = Diagnostic.place x.subject.1.name x.subject.2 ++ rest) ∧
    (∀ e : Entity, e.device? = none → ∃ new : List Diagnostic,
      (∀ x ∈ new, x.subject = (.ofEntity e, (t.entitiesIn (.ofEntity e)).length)) ∧
      ∀ s, (t.push e).problemsIn inv rules s
        = t.problemsIn inv rules s ++ if s = .ofEntity e then new else []) ∧
    (∀ d : Device, ∃ new : List Diagnostic,
      (∀ x ∈ new, x.subject = (.devices, t.devices.length)) ∧
      (t.push (.device d)).problemsIn inv rules .devices
        = t.problemsIn inv rules .devices ++ new ∧
      (∀ s, s ≠ .devices → (t.push (.device d)).problemsIn inv rules s
        = (t.problemsIn inv rules s).filter fun x => x.unknownDevice? ≠ some d.name) ∧
      (d.name ∈ t.deviceNames → ∀ s, s ≠ .devices →
        (t.push (.device d)).problemsIn inv rules s = t.problemsIn inv rules s)) := by
  refine ⟨?_, fun _ _ h => (append_eq_ok.mp h).2, Diagnostic.message_eq_place, ?_, ?_⟩
  · intro t
    rw [validate, problems_eq_flatMap, List.map_flatMap]
  · intro e he
    refine ⟨(t.newDoubts e).filter (Diagnostic.stands (t.push e).deviceNames inv rules), ?_, ?_⟩
    · intro x hx
      exact t.subject_of_mem_newDoubts (List.mem_of_mem_filter hx)
    · intro s
      rw [problemsIn_push, problemsIn_eq, t.deviceNames_push_of_ne he]
  · intro d
    have hothers : ∀ s, s ≠ .devices → (t.push (.device d)).problemsIn inv rules s
        = (t.problemsIn inv rules s).filter fun x => x.unknownDevice? ≠ some d.name := by
      intro s hs
      rw [problemsIn_push, filter_doubtsIn_device]
      exact (congrArg _ (if_neg hs)).trans (List.append_nil _)
    refine ⟨(t.newDoubts (.device d)).filter
      (Diagnostic.stands (t.push (.device d)).deviceNames inv rules), ?_, ?_, hothers, ?_⟩
    · intro x hx
      exact subject_of_mem_deviceDoubts (List.mem_of_mem_filter hx)
    · rw [problemsIn_push, filter_doubtsIn_device, List.filter_eq_self.mpr]
      · exact congrArg _ (if_pos rfl)
      · intro x hx
        have hsubject := (List.mem_filter.mp hx).2
        rw [decide_eq_true_eq] at hsubject
        simp [unknownDevice?_of_devices hsubject]
    · intro hname s hs
      rw [hothers s hs, List.filter_eq_self]
      intro x hx
      exact decide_eq_true
        (t.unknownDevice?_of_mem_problems inv rules (List.mem_of_mem_filter hx) hname)

end Topology

end NetDraft
