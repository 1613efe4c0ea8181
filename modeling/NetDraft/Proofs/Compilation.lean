/-
What a compiled script may be relied on for.

A topology is compiled exactly if it is well formed, and then its script defines every device
before it is used: the statements of the devices come first, and a well-formed topology names no
device that it has not, nor two devices alike.  Where a statement names devices is read off the
statement, not off the entity behind it, and the statements are those that can be read in the text
of the script.
-/
import NetDraft.Compilation
import NetDraft.Proofs.Script.Readable
import NetDraft.Proofs.Validation.WellFormed

namespace NetDraft

/-! ### Devices in statements -/

namespace Statement

/-- The positions at which the arguments of a statement name a device that is not its own. -/
def devicePositions (s : Statement) : List Nat :=
  if s.call = "addDevice" then [] else if s.call = "addLink" then [0, 2] else [0]

/-- The statement adds the device with the name. -/
def Defines (s : Statement) (name : Literal) : Prop :=
  s.call = "addDevice" ∧ s.args[0]? = some name

/-- Every device that a statement names is added by exactly one statement, an earlier one. -/
def DefinedBeforeUse (statements : List Statement) : Prop :=
  ∀ (i : Nat) (s : Statement), statements[i]? = some s →
    ∀ p ∈ s.devicePositions, ∃ name, s.args[p]? = some name ∧
      ∃ j, j < i ∧ (∃ s', statements[j]? = some s' ∧ Defines s' name) ∧
        ∀ (k : Nat) (s' : Statement), statements[k]? = some s' → s'.Defines name → k = j

end Statement

namespace Entity

/-- The names of the devices that an entity belongs to, a device aside. -/
def references : Entity → List String
  | .device _ => []
  | .hardware m => [m.device]
  | .link l => [l.first.device, l.second.device]
  | .host h => [h.device]
  | .router r => [r.device]

/-- The statement of an entity names the devices that the entity belongs to. -/
theorem args_devicePositions (e : Entity) : ∀ p ∈ (Statement.ofEntity e).asRead.devicePositions,
    ∃ name ∈ e.references, (Statement.ofEntity e).asRead.args[p]? = some (.text name) := by
  cases e <;>
    simp [Statement.ofEntity, Statement.asRead, Statement.devicePositions, references,
      Literal.asRead]

/-- Only the statement of a device adds a device. -/
theorem defines_iff (e : Entity) (name : String) :
    (Statement.ofEntity e).asRead.Defines (.text name) ↔ ∃ d, e = .device d ∧ d.name = name := by
  cases e <;> simp [Statement.ofEntity, Statement.asRead, Statement.Defines, Literal.asRead]

end Entity

namespace Topology

variable {t : Topology} {inv : Inventory} {rules : Rules}

/-! ### The order of entities -/

/-- The devices come first, and nothing else is a device. -/
theorem entities_split (t : Topology) : ∃ others, t.entities = t.devices.map .device ++ others ∧
    ∀ e ∈ others, ∀ d, e ≠ .device d := by
  refine ⟨t.modules.map .hardware ++ t.links.map .link ++ t.hosts.map .host
    ++ t.routers.map .router, by simp [entities], ?_⟩
  intro e he d
  simp only [List.mem_append, List.mem_map] at he
  rcases he with ((⟨_, _, rfl⟩ | ⟨_, _, rfl⟩) | ⟨_, _, rfl⟩) | ⟨_, _, rfl⟩ <;> simp

/-- A device has the same position among all entities as among the devices. -/
theorem getElem?_entities_device {i : Nat} {d : Device} :
    t.entities[i]? = some (.device d) ↔ t.devices[i]? = some d := by
  obtain ⟨others, hsplit, hothers⟩ := t.entities_split
  rw [hsplit]
  by_cases hi : i < t.devices.length
  · rw [List.getElem?_append_left (by simpa using hi), List.getElem?_map]
    simp [Option.map_eq_some_iff]
  · have hnone : t.devices[i]? = none := List.getElem?_eq_none (Nat.le_of_not_lt hi)
    rw [List.getElem?_append_right (by simpa using hi), hnone]
    constructor
    · intro hd
      exact absurd rfl (hothers _ (List.mem_of_getElem? hd) d)
    · simp

/-- What is no device comes behind all devices. -/
theorem length_devices_le {i : Nat} {e : Entity} (h : t.entities[i]? = some e)
    (hdevice : ∀ d, e ≠ .device d) : t.devices.length ≤ i := by
  by_contra hi
  have hd := List.getElem?_eq_getElem (Nat.lt_of_not_le hi)
  have he := getElem?_entities_device.mpr hd
  rw [h, Option.some.injEq] at he
  exact hdevice _ he

/-- A well-formed topology has every device that its entities belong to. -/
theorem mem_deviceNames_of_references (h : t.WellFormed inv rules) {e : Entity}
    (he : e ∈ t.entities) : ∀ name ∈ e.references, name ∈ t.deviceNames := by
  simp only [entities, List.mem_append, List.mem_map] at he
  rcases he with (((⟨d, _, rfl⟩ | ⟨m, hm, rfl⟩) | ⟨l, hl, rfl⟩) | ⟨a, ha, rfl⟩) | ⟨r, hr, rfl⟩
  · simp [Entity.references]
  · simpa [Entity.references] using h.module_device m hm
  · simpa [Entity.references] using h.link_devices l hl
  · simpa [Entity.references] using h.host_device a ha
  · simpa [Entity.references] using h.router_device r hr

/-! ### Compilation -/

/-- The statement at a position is that of the entity there. -/
theorem getElem?_statements {i : Nat} {s : Statement} :
    (t.statements.map Statement.asRead)[i]? = some s ↔
      ∃ e, t.entities[i]? = some e ∧ (Statement.ofEntity e).asRead = s := by
  simp [statements, Option.map_eq_some_iff]

/-- **The script of a well-formed topology defines every device before it is used.** -/
theorem WellFormed.definedBeforeUse (h : t.WellFormed inv rules) :
    Statement.DefinedBeforeUse (t.statements.map Statement.asRead) := by
  intro i s hs p hp
  obtain ⟨e, he, rfl⟩ := getElem?_statements.mp hs
  obtain ⟨name, hname, harg⟩ := e.args_devicePositions p hp
  -- The name belongs to a device, which stands in front of all that is no device.
  obtain ⟨d, hd, rfl⟩ :=
    List.mem_map.mp (mem_deviceNames_of_references h (List.mem_of_getElem? he) name hname)
  obtain ⟨j, hj⟩ := List.mem_iff_getElem?.mp hd
  have hji : j < i := by
    have hjlt := (List.getElem?_eq_some_iff.mp hj).1
    have hle := length_devices_le he (by rintro d rfl; simp [Entity.references] at hname)
    omega
  refine ⟨.text d.name, harg, j, hji, ⟨_, getElem?_statements.mpr
    ⟨_, getElem?_entities_device.mpr hj, rfl⟩, (Entity.defines_iff _ _).mpr ⟨d, rfl, rfl⟩⟩, ?_⟩
  intro k s' hs' hdefines
  obtain ⟨e', he', rfl⟩ := getElem?_statements.mp hs'
  obtain ⟨d', rfl, hsame⟩ := (Entity.defines_iff _ _).mp hdefines
  -- No other device has the name.
  have hk := getElem?_entities_device.mp he'
  have hklt : k < t.deviceNames.length := by
    rw [deviceNames, List.length_map]
    exact (List.getElem?_eq_some_iff.mp hk).1
  refine (List.getElem?_inj hklt h.names_nodup).mp ?_
  rw [deviceNames, List.getElem?_map, List.getElem?_map, hk, hj, Option.map_some, Option.map_some,
    hsame]

theorem compile_of_nil (hnil : t.validate inv rules = []) (validate : Bool) :
    t.compile inv validate rules = .script (.ofTopology t) := by
  cases validate <;> simp [compile, hnil]

theorem compile_of_ne_nil (hne : t.validate inv rules ≠ []) :
    t.compile inv true rules = .invalid (t.validate inv rules) := by
  simp [compile, hne]

/--
**A topology is compiled exactly if it is well formed.**

Its script is the one that is written without validation, and defines every device before it is
used.  A topology that is not well formed gives its problems and no script.
-/
theorem compile_validated (t : Topology) (inv : Inventory) (rules : Rules) :
    ((∃ s, t.compile inv true rules = .script s) ↔ t.WellFormed inv rules) ∧
      (∀ s, t.compile inv true rules = .script s → t.compile inv false rules = .script s ∧
        ∃ statements, Script.read? s.text = some statements ∧
          Statement.DefinedBeforeUse statements) ∧
      (¬t.WellFormed inv rules →
        t.compile inv true rules = .invalid (t.validate inv rules)) := by
  rw [← validate_eq_nil]
  by_cases hnil : t.validate inv rules = []
  · have hscript := compile_of_nil hnil
    refine ⟨⟨fun _ => hnil, fun _ => ⟨_, hscript true⟩⟩, ?_, fun hne => absurd hnil hne⟩
    intro s hs
    rw [hscript true, Compilation.script.injEq] at hs
    subst hs
    exact ⟨hscript false, _, Script.read?_ofTopology t,
      ((validate_eq_nil t inv rules).mp hnil).definedBeforeUse⟩
  · have hinvalid := compile_of_ne_nil hnil
    refine ⟨⟨?_, fun h => absurd h hnil⟩, ?_, fun _ => hinvalid⟩
    · rintro ⟨s, hs⟩
      rw [hinvalid] at hs
      cases hs
    · intro s hs
      rw [hinvalid] at hs
      cases hs

end Topology

end NetDraft
