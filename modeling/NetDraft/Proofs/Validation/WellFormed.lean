/-
When there is nothing to report.

The diagnostics of one entity speak of those before it.  Taken together they are silent exactly if
the topology as a whole is in order: no two devices share a name, every name and every key is
known, and the rules that are switched on hold.  `nodup_map_iff` is the step from one to the other:
a list has no repeated places if no entity finds its place taken by an earlier one.
-/
import NetDraft.Proofs.Validation.ByEntity

namespace NetDraft

/-- A topology that leaves nothing to object to. -/
structure Topology.WellFormed (t : Topology) (inv : Inventory) (rules : Rules) : Prop where
  /-- No two devices have the same name. -/
  names_nodup : t.deviceNames.Nodup
  /-- Both ends of a link are on devices. -/
  link_devices : ∀ l ∈ t.links, l.first.device ∈ t.deviceNames ∧ l.second.device ∈ t.deviceNames
  module_device : ∀ m ∈ t.modules, m.device ∈ t.deviceNames
  host_device : ∀ h ∈ t.hosts, h.device ∈ t.deviceNames
  router_device : ∀ r ∈ t.routers, r.device ∈ t.deviceNames
  device_model : ∀ d ∈ t.devices, d.model ∈ inv.keys .devices
  module_model : ∀ m ∈ t.modules, m.model ∈ inv.keys .modules
  cable : ∀ l ∈ t.links, l.cable ∈ inv.keys .links
  /-- No two links join the same two interfaces, in either direction. -/
  joins_nodup : rules.duplicateLinks = true → (t.links.map Link.joins).Nodup
  /-- No two modules take the same slot of a device. -/
  places_nodup : rules.slotCollisions = true → (t.modules.map Module.place).Nodup
  /-- No host asks for its addresses while some are set by hand. -/
  dhcp_alone : rules.dhcpAndStatic = true →
    ∀ h ∈ t.hosts, ¬(h.dhcp = some true ∧ h.hasStatic = true)

/-! ### From positions to whole lists -/

section

variable {α β : Type}

theorem flatMap_zipIdx_eq_nil {l : List α} {f : α × Nat → List β} :
    l.zipIdx.flatMap f = [] ↔ ∀ i x, l[i]? = some x → f (x, i) = [] := by
  rw [List.flatMap_eq_nil_iff]
  constructor
  · intro h i x hx
    exact h (x, i) (List.mk_mem_zipIdx_iff_getElem?.mpr hx)
  · rintro h ⟨x, i⟩ hx
    exact h i x (List.mk_mem_zipIdx_iff_getElem?.mp hx)

/-- An element at the end gives what is behind all else, and the others see nothing of it. -/
theorem flatMap_zipIdx_concat (f : List α → Nat → α → List β) (l : List α) (x : α) :
    ((l ++ [x]).zipIdx.flatMap fun (y, i) => f ((l ++ [x]).take i) i y)
      = (l.zipIdx.flatMap fun (y, i) => f (l.take i) i y) ++ f l l.length x := by
  have hfront : (l.zipIdx.flatMap fun (y, i) => f ((l ++ [x]).take i) i y)
      = l.zipIdx.flatMap fun (y, i) => f (l.take i) i y := by
    refine List.flatMap_congr ?_
    rintro ⟨y, i⟩ hy
    have hi := (List.getElem?_eq_some_iff.mp (List.mk_mem_zipIdx_iff_getElem?.mp hy)).1
    dsimp only
    rw [List.take_append_of_le_length (Nat.le_of_lt hi)]
  rw [List.zipIdx_append, List.flatMap_append, hfront]
  simp only [List.zipIdx_singleton, List.flatMap_singleton, Nat.zero_add, List.take_left]

/-- What holds at every position holds of every element. -/
theorem forall_getElem?_iff {l : List α} {P : α → Prop} :
    (∀ (i : Nat) x, l[i]? = some x → P x) ↔ ∀ x ∈ l, P x := by
  constructor
  · intro h x hx
    obtain ⟨i, hi⟩ := List.mem_iff_getElem?.mp hx
    exact h i x hi
  · intro h i x hx
    exact h x (List.mem_of_getElem? hx)

variable [DecidableEq β]

theorem firstAt?_eq_none {place : α → β} {before : List α} {x : α} :
    firstAt? place before x = none ↔ ∀ y ∈ before, place y ≠ place x := by
  simp [firstAt?]

/-- No place is taken twice if nothing stands at a place that was taken before. -/
theorem nodup_map_iff {place : α → β} {l : List α} :
    (l.map place).Nodup ↔ ∀ i x, l[i]? = some x → firstAt? place (l.take i) x = none := by
  rw [List.Nodup, List.pairwise_map, List.pairwise_iff_getElem]
  simp only [firstAt?_eq_none]
  constructor
  · intro h i x hx y hy
    obtain ⟨hi, rfl⟩ := List.getElem?_eq_some_iff.mp hx
    obtain ⟨j, hj, rfl⟩ := List.mem_take_iff_getElem.mp hy
    exact h j i _ hi (by omega)
  · intro h i j hi hj hij
    exact h j l[j] (List.getElem?_eq_getElem hj) l[i]
      (List.mem_take_iff_getElem.mpr ⟨i, by omega, rfl⟩)

end

namespace Topology

variable {t : Topology} {inv : Inventory} {rules : Rules}

/-! ### Entities of one sort without diagnostics -/

theorem deviceProblems_eq_nil :
    (t.devices.zipIdx.flatMap fun (d, i) => deviceProblems inv (t.devices.take i) i d) = [] ↔
      t.deviceNames.Nodup ∧ ∀ d ∈ t.devices, d.model ∈ inv.keys .devices := by
  have hname : ∀ (before : List Device) (d : Device), (before.any fun e => e.name = d.name) = false
      ↔ firstAt? (fun e : Device => e.name) before d = none := by
    intro before d
    simp [firstAt?_eq_none]
  rw [flatMap_zipIdx_eq_nil, deviceNames, nodup_map_iff, ← forall_getElem?_iff]
  simp only [deviceProblems_eq, List.append_eq_nil_iff, reportIf_eq_nil, hname, Bool.not_eq_false',
    Inventory.has_eq_true]
  grind

/-- The rule against two links in one place is silent of a link in a new place. -/
theorem linkProblems_at_eq_nil {before : List Link} {i : Nat} {l : Link} :
    t.linkProblems inv rules before i l = [] ↔
      (l.first.device ∈ t.deviceNames ∧ l.second.device ∈ t.deviceNames) ∧
        l.cable ∈ inv.keys .links ∧
        (rules.duplicateLinks = true → firstAt? Link.joins before l = none) := by
  rw [linkProblems_eq]
  cases firstAt? Link.joins before l <;>
    simp [reportIf_eq_nil, Inventory.has_eq_true, and_assoc]

theorem linkProblems_eq_nil :
    (t.links.zipIdx.flatMap fun (l, i) => t.linkProblems inv rules (t.links.take i) i l) = [] ↔
      (∀ l ∈ t.links, l.first.device ∈ t.deviceNames ∧ l.second.device ∈ t.deviceNames) ∧
        (∀ l ∈ t.links, l.cable ∈ inv.keys .links) ∧
        (rules.duplicateLinks = true → (t.links.map Link.joins).Nodup) := by
  rw [flatMap_zipIdx_eq_nil, nodup_map_iff, ← forall_getElem?_iff, ← forall_getElem?_iff]
  simp only [linkProblems_at_eq_nil]
  grind

theorem moduleProblems_at_eq_nil {before : List Module} {i : Nat} {m : Module} :
    t.moduleProblems inv rules before i m = [] ↔
      m.device ∈ t.deviceNames ∧ m.model ∈ inv.keys .modules ∧
        (rules.slotCollisions = true → firstAt? Module.place before m = none) := by
  rw [moduleProblems_eq]
  cases firstAt? Module.place before m <;> simp [reportIf_eq_nil, Inventory.has_eq_true]

theorem moduleProblems_eq_nil :
    (t.modules.zipIdx.flatMap fun (m, i) => t.moduleProblems inv rules (t.modules.take i) i m) = []
      ↔ (∀ m ∈ t.modules, m.device ∈ t.deviceNames) ∧
        (∀ m ∈ t.modules, m.model ∈ inv.keys .modules) ∧
        (rules.slotCollisions = true → (t.modules.map Module.place).Nodup) := by
  rw [flatMap_zipIdx_eq_nil, nodup_map_iff, ← forall_getElem?_iff, ← forall_getElem?_iff]
  simp only [moduleProblems_at_eq_nil]
  grind

theorem hostProblems_eq_nil :
    (t.hosts.zipIdx.flatMap fun (h, i) => t.hostProblems rules i h) = [] ↔
      (∀ h ∈ t.hosts, h.device ∈ t.deviceNames) ∧
        (rules.dhcpAndStatic = true →
          ∀ h ∈ t.hosts, ¬(h.dhcp = some true ∧ h.hasStatic = true)) := by
  rw [flatMap_zipIdx_eq_nil, ← forall_getElem?_iff, ← forall_getElem?_iff]
  simp only [hostProblems_eq, List.append_eq_nil_iff, reportIf_eq_nil, decide_eq_false_iff_not,
    not_not]
  grind

theorem routerProblems_eq_nil :
    (t.routers.zipIdx.flatMap fun (r, i) => t.routerProblems i r) = [] ↔
      ∀ r ∈ t.routers, r.device ∈ t.deviceNames := by
  rw [flatMap_zipIdx_eq_nil, ← forall_getElem?_iff]
  simp [routerProblems_eq, reportIf_eq_nil]

/-- **Nothing is reported exactly if the topology is well formed.** -/
theorem validate_eq_nil (t : Topology) (inv : Inventory) (rules : Rules) :
    t.validate inv rules = [] ↔ t.WellFormed inv rules := by
  rw [validate, List.map_eq_nil_iff, problems_eq, problemsByEntity]
  simp only [List.append_eq_nil_iff, deviceProblems_eq_nil, linkProblems_eq_nil,
    moduleProblems_eq_nil, hostProblems_eq_nil, routerProblems_eq_nil]
  constructor
  · rintro ⟨⟨⟨⟨⟨hnames, hmodels⟩, hlinks, hcables, hjoins⟩, hmodules, hkinds, hplaces⟩, hhosts,
      hdhcp⟩, hrouters⟩
    exact ⟨hnames, hlinks, hmodules, hhosts, hrouters, hmodels, hkinds, hcables, hjoins, hplaces,
      hdhcp⟩
  · intro h
    exact ⟨⟨⟨⟨⟨h.names_nodup, h.device_model⟩, h.link_devices, h.cable, h.joins_nodup⟩,
      h.module_device, h.module_model, h.places_nodup⟩, h.host_device, h.dhcp_alone⟩,
      h.router_device⟩

end Topology

end NetDraft
