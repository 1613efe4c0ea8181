/-
What decides whether a diagnostic is reported.

The entities of a topology by themselves raise doubts: every device that is named might be unknown,
every key might not be in the inventory, every place that is taken twice might be against the
rules.  The doubts are in the order of the diagnostics, and whether a doubt stands depends on
nothing but the names of the devices, the inventory and the rules: `problems_eq_filter` says that
the diagnostics are the doubts that stand.  So with other rules or another inventory diagnostics
come or go, but none changes its words or its place among the others.
-/
import NetDraft.Proofs.Topology.Entities
import NetDraft.Proofs.Validation.WellFormed

namespace NetDraft

/-! ### What a diagnostic depends on -/

/-- One of the optional rules. -/
inductive Rule where
  | duplicateLinks
  | slotCollisions
  | dhcpAndStatic
deriving DecidableEq

/-- Whether a rule is switched on. -/
def Rules.on (rules : Rules) : Rule → Bool
  | .duplicateLinks => rules.duplicateLinks
  | .slotCollisions => rules.slotCollisions
  | .dhcpAndStatic => rules.dhcpAndStatic

namespace Diagnostic

/-- The entity that has the problem, by its section and its position there. -/
def subject : Diagnostic → Section × Nat
  | duplicateName i _ => (.devices, i)
  | unknownDeviceModel i _ _ => (.devices, i)
  | unknownFirstEnd i _ => (.links, i)
  | unknownSecondEnd i _ => (.links, i)
  | unknownCable i _ => (.links, i)
  | duplicateLink i _ _ => (.links, i)
  | moduleWithoutDevice i _ => (.modules, i)
  | unknownModuleModel i _ _ => (.modules, i)
  | slotTaken i _ _ _ => (.modules, i)
  | hostWithoutDevice i _ => (.hosts, i)
  | dhcpAndStatic i _ => (.hosts, i)
  | routerWithoutDevice i _ => (.routers, i)

/-- The name that is not known as that of a device. -/
def unknownDevice? : Diagnostic → Option String
  | unknownFirstEnd _ device => some device
  | unknownSecondEnd _ device => some device
  | moduleWithoutDevice _ device => some device
  | hostWithoutDevice _ device => some device
  | routerWithoutDevice _ device => some device
  | _ => none

/-- The model or cable that is not in the inventory. -/
def unknownKey? : Diagnostic → Option (Kind × String)
  | unknownDeviceModel _ _ model => some (.devices, model)
  | unknownModuleModel _ _ model => some (.modules, model)
  | unknownCable _ cable => some (.links, cable)
  | _ => none

/-- The optional rule that is not kept. -/
def brokenRule? : Diagnostic → Option Rule
  | duplicateLink .. => some .duplicateLinks
  | slotTaken .. => some .slotCollisions
  | dhcpAndStatic .. => some .dhcpAndStatic
  | _ => none

/-- The words begin with the place of the entity. -/
theorem message_eq_place (d : Diagnostic) :
    ∃ rest, d.message = place d.subject.1.name d.subject.2 ++ rest := by
  cases d <;> simp only [message, String.append_assoc] <;> exact ⟨_, rfl⟩

/-- The doubt stands, given the names of the devices, the inventory and the rules. -/
def stands (names : List String) (inv : Inventory) (rules : Rules) (d : Diagnostic) : Bool :=
  d.unknownDevice?.all (· ∉ names) && d.unknownKey?.all (fun k => !inv.has k.1 k.2)
    && d.brokenRule?.all rules.on

end Diagnostic

/-! ### Doubts -/

/-- The sections in the order in which their diagnostics are reported. -/
def Section.reported : List Section := [devices, links, modules, hosts, routers]

namespace Topology

/-- The doubts about a device, `before` being the devices in front of it. -/
def deviceDoubts (before : List Device) (i : Nat) (d : Device) : List Diagnostic :=
  reportIf (before.any fun e => e.name = d.name) (.duplicateName i d.name)
    ++ [.unknownDeviceModel i d.name d.model]

/-- The doubts about a link. -/
def linkDoubts (before : List Link) (i : Nat) (l : Link) : List Diagnostic :=
  [.unknownFirstEnd i l.first.device, .unknownSecondEnd i l.second.device,
      .unknownCable i l.cable]
    ++ match firstAt? Link.joins before l with
      | some earlier => [.duplicateLink i earlier l]
      | none => []

/-- The doubts about a module. -/
def moduleDoubts (before : List Module) (i : Nat) (m : Module) : List Diagnostic :=
  [.moduleWithoutDevice i m.device, .unknownModuleModel i m.device m.model]
    ++ match firstAt? Module.place before m with
      | some earlier => [.slotTaken i earlier m.device m.slot]
      | none => []

/-- The doubts about host addressing. -/
def hostDoubts (i : Nat) (h : HostAddressing) : List Diagnostic :=
  .hostWithoutDevice i h.device
    :: reportIf (h.dhcp == some true && h.hasStatic) (.dhcpAndStatic i h.device)

/-- The doubts about router commands. -/
def routerDoubts (i : Nat) (r : RouterCommands) : List Diagnostic :=
  [.routerWithoutDevice i r.device]

/-- The doubts about the entities of a section. -/
def doubtsIn (t : Topology) : Section → List Diagnostic
  | .devices => t.devices.zipIdx.flatMap fun (d, i) => deviceDoubts (t.devices.take i) i d
  | .links => t.links.zipIdx.flatMap fun (l, i) => linkDoubts (t.links.take i) i l
  | .modules => t.modules.zipIdx.flatMap fun (m, i) => moduleDoubts (t.modules.take i) i m
  | .hosts => t.hosts.zipIdx.flatMap fun (h, i) => hostDoubts i h
  | .routers => t.routers.zipIdx.flatMap fun (r, i) => routerDoubts i r

/-- All doubts. -/
def doubts (t : Topology) : List Diagnostic := Section.reported.flatMap t.doubtsIn

variable (t : Topology) (inv : Inventory) (rules : Rules)

/-! ### Whom a doubt is about -/

section

variable {x : Diagnostic} {i : Nat}

theorem subject_of_mem_deviceDoubts {before : List Device} {d : Device}
    (h : x ∈ deviceDoubts before i d) : x.subject = (.devices, i) := by
  rcases List.mem_append.mp h with h | h
  · rw [(mem_reportIf.mp h).2]
    rfl
  · rw [List.mem_singleton.mp h]
    rfl

theorem subject_of_mem_linkDoubts {before : List Link} {l : Link}
    (h : x ∈ linkDoubts before i l) : x.subject = (.links, i) := by
  unfold linkDoubts at h
  cases hfirst : firstAt? Link.joins before l with
  | none | some earlier =>
      rw [hfirst] at h
      simp only [List.cons_append, List.nil_append, List.mem_cons, List.not_mem_nil,
        or_false] at h
      rcases h with rfl | rfl | rfl | rfl <;> rfl

theorem subject_of_mem_moduleDoubts {before : List Module} {m : Module}
    (h : x ∈ moduleDoubts before i m) : x.subject = (.modules, i) := by
  unfold moduleDoubts at h
  cases hfirst : firstAt? Module.place before m with
  | none | some earlier =>
      rw [hfirst] at h
      simp only [List.cons_append, List.nil_append, List.mem_cons, List.not_mem_nil,
        or_false] at h
      rcases h with rfl | rfl | rfl <;> rfl

theorem subject_of_mem_hostDoubts {h : HostAddressing} (hx : x ∈ hostDoubts i h) :
    x.subject = (.hosts, i) := by
  rcases List.mem_cons.mp hx with rfl | hx
  · rfl
  · rw [(mem_reportIf.mp hx).2]
    rfl

theorem subject_of_mem_routerDoubts {r : RouterCommands} (h : x ∈ routerDoubts i r) :
    x.subject = (.routers, i) := by
  rw [List.mem_singleton.mp h]
  rfl

end

/-- The doubts about a section are about its entities. -/
theorem subject_of_mem_doubtsIn {s : Section} {x : Diagnostic} (h : x ∈ t.doubtsIn s) :
    x.subject.1 = s := by
  cases s with
  | devices =>
      obtain ⟨_, -, hx⟩ := List.mem_flatMap.mp h
      rw [subject_of_mem_deviceDoubts hx]
  | modules =>
      obtain ⟨_, -, hx⟩ := List.mem_flatMap.mp h
      rw [subject_of_mem_moduleDoubts hx]
  | links =>
      obtain ⟨_, -, hx⟩ := List.mem_flatMap.mp h
      rw [subject_of_mem_linkDoubts hx]
  | hosts =>
      obtain ⟨_, -, hx⟩ := List.mem_flatMap.mp h
      rw [subject_of_mem_hostDoubts hx]
  | routers =>
      obtain ⟨_, -, hx⟩ := List.mem_flatMap.mp h
      rw [subject_of_mem_routerDoubts hx]

/-! ### The doubts that stand -/

theorem filter_cons_eq_reportIf {q : Diagnostic → Bool} {d : Diagnostic} {ds : List Diagnostic} :
    (d :: ds).filter q = reportIf (q d) d ++ ds.filter q := by
  cases hq : q d <;> simp [reportIf, hq]

theorem filter_deviceDoubts (before : List Device) (i : Nat) (d : Device) :
    (deviceDoubts before i d).filter (Diagnostic.stands t.deviceNames inv rules)
      = deviceProblems inv before i d := by
  simp [deviceDoubts, deviceProblems_eq, filter_reportIf, filter_cons_eq_reportIf,
    Diagnostic.stands, Diagnostic.unknownDevice?, Diagnostic.unknownKey?, Diagnostic.brokenRule?]

theorem filter_linkDoubts (before : List Link) (i : Nat) (l : Link) :
    (linkDoubts before i l).filter (Diagnostic.stands t.deviceNames inv rules)
      = t.linkProblems inv rules before i l := by
  rw [linkProblems_eq]
  unfold linkDoubts
  cases firstAt? Link.joins before l <;>
    simp [filter_cons_eq_reportIf, Diagnostic.stands, Diagnostic.unknownDevice?,
      Diagnostic.unknownKey?, Diagnostic.brokenRule?, Rules.on]

theorem filter_moduleDoubts (before : List Module) (i : Nat) (m : Module) :
    (moduleDoubts before i m).filter (Diagnostic.stands t.deviceNames inv rules)
      = t.moduleProblems inv rules before i m := by
  rw [moduleProblems_eq]
  unfold moduleDoubts
  cases firstAt? Module.place before m <;>
    simp [filter_cons_eq_reportIf, Diagnostic.stands, Diagnostic.unknownDevice?,
      Diagnostic.unknownKey?, Diagnostic.brokenRule?, Rules.on]

theorem filter_hostDoubts (i : Nat) (h : HostAddressing) :
    (hostDoubts i h).filter (Diagnostic.stands t.deviceNames inv rules)
      = t.hostProblems rules i h := by
  have hrule : (h.dhcp == some true && h.hasStatic && rules.dhcpAndStatic)
      = (rules.dhcpAndStatic && h.dhcp == some true && h.hasStatic) := by
    rw [Bool.and_comm, Bool.and_assoc]
  simp [hostDoubts, hostProblems_eq, filter_reportIf, filter_cons_eq_reportIf, Diagnostic.stands,
    Diagnostic.unknownDevice?, Diagnostic.unknownKey?, Diagnostic.brokenRule?, Rules.on, hrule]

theorem filter_routerDoubts (i : Nat) (r : RouterCommands) :
    (routerDoubts i r).filter (Diagnostic.stands t.deviceNames inv rules)
      = t.routerProblems i r := by
  simp [routerDoubts, routerProblems_eq, filter_cons_eq_reportIf, Diagnostic.stands,
    Diagnostic.unknownDevice?, Diagnostic.unknownKey?, Diagnostic.brokenRule?]

/-- **The diagnostics are the doubts that stand.** -/
theorem problems_eq_filter :
    t.problems inv rules = t.doubts.filter (Diagnostic.stands t.deviceNames inv rules) := by
  simp only [problems_eq, problemsByEntity, doubts, Section.reported, doubtsIn,
    List.flatMap_cons, List.flatMap_nil, List.append_nil, List.filter_append,
    List.filter_flatMap, filter_deviceDoubts, filter_linkDoubts, filter_moduleDoubts,
    filter_hostDoubts, filter_routerDoubts, List.append_assoc]

/-! ### Other rules and inventories -/

/-- A doubt stands under more rules unless it is about one of the new ones. -/
theorem stands_of_fewer {fewer more : Rules} (h : ∀ rule, fewer.on rule → more.on rule)
    (names : List String) (d : Diagnostic) : d.stands names inv fewer
      = (d.stands names inv more
        && !d.brokenRule?.any fun rule => more.on rule && !fewer.on rule) := by
  unfold Diagnostic.stands
  cases d.brokenRule? with
  | none => simp
  | some rule =>
      have hrule := h rule
      cases hf : fewer.on rule <;> cases hm : more.on rule <;> simp_all

theorem stands_of_larger {small large : Inventory}
    (h : ∀ kind key, small.has kind key → large.has kind key) (names : List String)
    (d : Diagnostic) : d.stands names large rules
      = (d.stands names small rules
        && !d.unknownKey?.any fun k => large.has k.1 k.2 && !small.has k.1 k.2) := by
  unfold Diagnostic.stands
  cases d.unknownKey? with
  | none => simp
  | some k =>
      have hkey := h k.1 k.2
      cases hs : small.has k.1 k.2 <;> cases hl : large.has k.1 k.2 <;> simp_all

/--
**More rules add diagnostics, and a larger inventory takes some away.**

The diagnostics that are added are those of the rules that are switched on anew, and those that
are taken away are those for the keys that are new in the inventory.  All others keep their words
and their order.
-/
theorem validate_monotone (t : Topology) :
    (∀ (inv : Inventory) (fewer more : Rules), (∀ rule, fewer.on rule → more.on rule) →
      (t.validate inv fewer).Sublist (t.validate inv more) ∧
        t.problems inv fewer = (t.problems inv more).filter fun d =>
          !d.brokenRule?.any fun rule => more.on rule && !fewer.on rule) ∧
    (∀ (rules : Rules) (small large : Inventory),
      (∀ kind key, small.has kind key → large.has kind key) →
      (t.validate large rules).Sublist (t.validate small rules) ∧
        t.problems large rules = (t.problems small rules).filter fun d =>
          !d.unknownKey?.any fun k => large.has k.1 k.2 && !small.has k.1 k.2) := by
  constructor
  · intro inv fewer more h
    have heq : t.problems inv fewer = (t.problems inv more).filter fun d =>
        !d.brokenRule?.any fun rule => more.on rule && !fewer.on rule := by
      rw [problems_eq_filter, problems_eq_filter, List.filter_filter]
      exact List.filter_congr fun d _ => by rw [stands_of_fewer inv h, Bool.and_comm]
    refine ⟨?_, heq⟩
    rw [validate, heq]
    exact List.filter_sublist.map _
  · intro rules small large h
    have heq : t.problems large rules = (t.problems small rules).filter fun d =>
        !d.unknownKey?.any fun k => large.has k.1 k.2 && !small.has k.1 k.2 := by
      rw [problems_eq_filter, problems_eq_filter, List.filter_filter]
      exact List.filter_congr fun d _ => by rw [stands_of_larger rules h, Bool.and_comm]
    refine ⟨?_, heq⟩
    rw [validate, heq]
    exact List.filter_sublist.map _

/-- Two modules in the same slot. -/
def stacked : Topology where
  devices := [⟨"R1", "2811", .ofNat 0, .ofNat 0⟩]
  modules := [⟨"R1", 0, "HWIC-2T"⟩, ⟨"R1", 0, "WIC-1T"⟩]
  links := []
  hosts := []
  routers := []

theorem validate_monotone_stacked :
    let small : Inventory := ⟨fun _ => ["2811", "HWIC-2T"]⟩
    let large : Inventory := ⟨fun _ => ["2811", "HWIC-2T", "WIC-1T"]⟩
    (∀ rule, Rules.none.on rule → Rules.strict.on rule) ∧
      (∀ kind key, small.has kind key → large.has kind key) ∧
      (stacked.validate small .none).Sublist (stacked.validate small .strict) ∧
      (stacked.validate large .strict).Sublist (stacked.validate small .strict) := by
  intro small large
  have hrules : ∀ rule, Rules.none.on rule → Rules.strict.on rule := by
    intro rule
    cases rule <;> decide
  have hkeys : ∀ kind key, small.has kind key → large.has kind key := by
    intro kind key hkey
    rw [Inventory.has_eq_true] at hkey ⊢
    exact List.mem_append_left ["WIC-1T"] hkey
  have h := stacked.validate_monotone
  exact ⟨hrules, hkeys, (h.1 small _ _ hrules).1, (h.2 .strict _ _ hkeys).1⟩

end Topology

end NetDraft
