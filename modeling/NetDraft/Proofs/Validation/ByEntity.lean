/-
Validation, entity by entity.

The validator runs five scans that remember what they have seen: the names of the devices before,
and for links and modules which entity took a place first.  Here every diagnostic is said without
any memory, as a function of the topology and of a position in one of its lists, and the scans are
shown to give exactly these diagnostics in order.

What a scan remembers is a function of the entities before its position.  `scan_eq_flatMap` is the
one induction behind all five of them; what is left of each scan is its step.
-/
import Mathlib.Data.Sym.Sym2
import Mathlib.Order.Bounds.Basic
import NetDraft.Validation

namespace NetDraft

/-- The two interfaces that a link joins, in no order. -/
def Link.joins (l : Link) : Sym2 Endpoint := s(l.first, l.second)

/-- The device and the slot that a module takes. -/
def Module.place (m : Module) : String × UInt32 := (m.device, m.slot)

/-- The first of the entities before that stands where `x` does. -/
def firstAt? {α β : Type} [DecidableEq β] (place : α → β) (before : List α) (x : α) :
    Option Nat :=
  before.findIdx? fun y => place y = place x

/-- In the front of a list, it is the least position of an entity at that place. -/
theorem firstAt?_take_eq_some_iff {α β : Type} [DecidableEq β] {place : α → β} {l : List α}
    {i f : Nat} {x : α} :
    firstAt? place (l.take i) x = some f ↔
      IsLeast {j | j < i ∧ ∃ y, l[j]? = some y ∧ place y = place x} f := by
  have hget : ∀ j y, l[j]? = some y → j < i → (l.take i)[j]? = some y := by
    intro j y hy hj
    rw [List.getElem?_take, if_pos hj, hy]
  rw [firstAt?, List.findIdx?_eq_some_iff_getElem]
  constructor
  · rintro ⟨hf, hplace, hleast⟩
    rw [List.length_take] at hf
    refine ⟨⟨by omega, l[f], List.getElem?_eq_getElem (by omega), by simpa using hplace⟩, ?_⟩
    rintro j ⟨hj, y, hy, hplacey⟩
    by_contra hjf
    refine hleast j (by omega) ?_
    obtain ⟨_, hy'⟩ := List.getElem?_eq_some_iff.mp (hget j y hy hj)
    rw [hy']
    simpa using hplacey
  · rintro ⟨⟨hf, y, hy, hplacey⟩, hleast⟩
    obtain ⟨hlt, hy'⟩ := List.getElem?_eq_some_iff.mp (hget f y hy hf)
    refine ⟨hlt, by rw [hy']; simpa using hplacey, ?_⟩
    intro j hj hplacej
    have hlen : j < l.length := by
      rw [List.length_take] at hlt
      omega
    have hle : f ≤ j := hleast
      ⟨by omega, l[j], List.getElem?_eq_getElem hlen, by simpa using hplacej⟩
    omega

namespace Topology

variable (t : Topology) (inv : Inventory) (rules : Rules)

/-! ### The diagnostics of one entity

`before` are the entities that stand before position `i` of the same list.
-/

/-- The diagnostics of the device at position `i`. -/
def deviceProblems (before : List Device) (i : Nat) (d : Device) : List Diagnostic :=
  (if ∃ e ∈ before, e.name = d.name then [.duplicateName i d.name] else [])
    ++ if d.model ∉ inv.keys .devices then [.unknownDeviceModel i d.name d.model] else []

/-- The diagnostics of the link at position `i`. -/
def linkProblems (before : List Link) (i : Nat) (l : Link) : List Diagnostic :=
  (if ∀ d ∈ t.devices, d.name ≠ l.first.device then [.unknownFirstEnd i l.first.device] else [])
    ++ (if ∀ d ∈ t.devices, d.name ≠ l.second.device then
        [.unknownSecondEnd i l.second.device] else [])
    ++ (if l.cable ∉ inv.keys .links then [.unknownCable i l.cable] else [])
    ++ match firstAt? Link.joins before l with
      | some earlier => if rules.duplicateLinks then [.duplicateLink i earlier l] else []
      | none => []

/-- The diagnostics of the module at position `i`. -/
def moduleProblems (before : List Module) (i : Nat) (m : Module) : List Diagnostic :=
  (if ∀ d ∈ t.devices, d.name ≠ m.device then [.moduleWithoutDevice i m.device] else [])
    ++ (if m.model ∉ inv.keys .modules then [.unknownModuleModel i m.device m.model] else [])
    ++ match firstAt? Module.place before m with
      | some earlier => if rules.slotCollisions then [.slotTaken i earlier m.device m.slot] else []
      | none => []

/-- The diagnostics of the host addressing at position `i`. -/
def hostProblems (i : Nat) (h : HostAddressing) : List Diagnostic :=
  (if ∀ d ∈ t.devices, d.name ≠ h.device then [.hostWithoutDevice i h.device] else [])
    ++ if rules.dhcpAndStatic ∧ h.dhcp = some true ∧
        (h.address.isSome ∨ h.mask.isSome ∨ h.gateway.isSome ∨ h.dns.isSome) then
      [.dhcpAndStatic i h.device] else []

/-- The diagnostics of the router commands at position `i`. -/
def routerProblems (i : Nat) (r : RouterCommands) : List Diagnostic :=
  if ∀ d ∈ t.devices, d.name ≠ r.device then [.routerWithoutDevice i r.device] else []

/-- The diagnostics of all entities, list by list and position by position. -/
def problemsByEntity : List Diagnostic :=
  (t.devices.zipIdx.flatMap fun (d, i) => deviceProblems inv (t.devices.take i) i d)
    ++ (t.links.zipIdx.flatMap fun (l, i) => t.linkProblems inv rules (t.links.take i) i l)
    ++ (t.modules.zipIdx.flatMap fun (m, i) => t.moduleProblems inv rules (t.modules.take i) i m)
    ++ (t.hosts.zipIdx.flatMap fun (h, i) => t.hostProblems rules i h)
    ++ (t.routers.zipIdx.flatMap fun (r, i) => t.routerProblems i r)

/-! ### The same in the terms of the scans -/

theorem not_mem_deviceNames {name : String} :
    decide (name ∉ t.deviceNames) = true ↔ ∀ d ∈ t.devices, d.name ≠ name := by
  simp [deviceNames]

theorem not_has_eq_true {kind : Kind} {key : String} :
    (!inv.has kind key) = true ↔ key ∉ inv.keys kind := by
  rw [Bool.not_eq_true', ← Inventory.has_eq_true, Bool.not_eq_true]

variable {t inv rules} {i : Nat}

theorem deviceProblems_eq {before : List Device} {d : Device} : deviceProblems inv before i d
    = reportIf (before.any fun e => e.name = d.name) (.duplicateName i d.name)
      ++ reportIf (!inv.has .devices d.model) (.unknownDeviceModel i d.name d.model) := by
  rw [reportIf_eq_ite (not_has_eq_true inv),
    reportIf_eq_ite (P := ∃ e ∈ before, e.name = d.name) (by simp)]
  rfl

theorem linkProblems_eq {before : List Link} {l : Link} : t.linkProblems inv rules before i l
    = reportIf (l.first.device ∉ t.deviceNames) (.unknownFirstEnd i l.first.device)
      ++ reportIf (l.second.device ∉ t.deviceNames) (.unknownSecondEnd i l.second.device)
      ++ reportIf (!inv.has .links l.cable) (.unknownCable i l.cable)
      ++ match firstAt? Link.joins before l with
        | some earlier => reportIf rules.duplicateLinks (.duplicateLink i earlier l)
        | none => [] := by
  rw [reportIf_eq_ite (not_mem_deviceNames t), reportIf_eq_ite (not_mem_deviceNames t),
    reportIf_eq_ite (not_has_eq_true inv)]
  rfl

theorem moduleProblems_eq {before : List Module} {m : Module} :
    t.moduleProblems inv rules before i m
      = reportIf (m.device ∉ t.deviceNames) (.moduleWithoutDevice i m.device)
        ++ reportIf (!inv.has .modules m.model) (.unknownModuleModel i m.device m.model)
        ++ match firstAt? Module.place before m with
          | some earlier => reportIf rules.slotCollisions (.slotTaken i earlier m.device m.slot)
          | none => [] := by
  rw [reportIf_eq_ite (not_mem_deviceNames t), reportIf_eq_ite (not_has_eq_true inv)]
  rfl

theorem hostProblems_eq {h : HostAddressing} : t.hostProblems rules i h
    = reportIf (h.device ∉ t.deviceNames) (.hostWithoutDevice i h.device)
      ++ reportIf (rules.dhcpAndStatic && h.dhcp == some true && h.hasStatic)
        (.dhcpAndStatic i h.device) := by
  have hstatic : (rules.dhcpAndStatic && h.dhcp == some true && h.hasStatic) = true ↔
      rules.dhcpAndStatic ∧ h.dhcp = some true ∧
        (h.address.isSome ∨ h.mask.isSome ∨ h.gateway.isSome ∨ h.dns.isSome) := by
    simp [HostAddressing.hasStatic, and_assoc, or_assoc]
  rw [reportIf_eq_ite (not_mem_deviceNames t), reportIf_eq_ite hstatic]
  rfl

theorem routerProblems_eq {r : RouterCommands} : t.routerProblems i r
    = reportIf (r.device ∉ t.deviceNames) (.routerWithoutDevice i r.device) := by
  rw [reportIf_eq_ite (not_mem_deviceNames t)]
  rfl

end Topology

namespace Validation

/-! ### Scans in general

A scan gives something for each element and goes on with a state that depends on the elements so
far.  If `Knows before s` says what the state holds behind the elements `before`, and a step keeps
it, then what the scan gives for an element is a function of those before it.
-/

theorem scan_eq_flatMap {α β σ : Type} {out : σ → Nat → α → List β}
    (scan : σ → Nat → List α → List β) (next : σ → Nat → α → σ) (Knows : List α → σ → Prop)
    (f : List α → Nat → α → List β)
    (hnil : ∀ s i, scan s i [] = [])
    (hcons : ∀ s i x rest, scan s i (x :: rest) = out s i x ++ scan (next s i x) (i + 1) rest)
    (hnext : ∀ before s x, Knows before s → Knows (before ++ [x]) (next s before.length x))
    (hout : ∀ before s x, Knows before s → out s before.length x = f before before.length x) :
    ∀ (rest before : List α) (s : σ), Knows before s →
      scan s before.length rest
        = (rest.zipIdx before.length).flatMap fun p => f ((before ++ rest).take p.2) p.2 p.1 := by
  intro rest
  induction rest with
  | nil => intro before s _; rw [hnil]; rfl
  | cons x rest ih =>
      intro before s h
      have hrest := ih (before ++ [x]) (next s before.length x) (hnext before s x h)
      rw [List.length_append, List.length_singleton, List.append_assoc,
        List.singleton_append] at hrest
      rw [hcons, hout before s x h, hrest, List.zipIdx_cons, List.flatMap_cons,
        List.take_left]

/-! ### What the scans remember -/

/-- The names seen by the scan of the devices are those of the devices before. -/
def NamesOf (before : List Device) (seen : List String) : Prop :=
  ∀ name, name ∈ seen ↔ ∃ d ∈ before, d.name = name

theorem namesOf_next {before : List Device} {seen : List String} (h : NamesOf before seen)
    (d : Device) : NamesOf (before ++ [d]) (d.name :: seen) := by
  intro name
  rw [List.mem_cons, h name]
  constructor
  · rintro (rfl | ⟨e, he, hname⟩)
    · exact ⟨d, by simp, rfl⟩
    · exact ⟨e, by simp [he], hname⟩
  · rintro ⟨e, he, hname⟩
    rcases List.mem_append.mp he with he | he
    · exact Or.inr ⟨e, he, hname⟩
    · exact Or.inl (by rw [← hname, List.mem_singleton.mp he])

variable {α β : Type} [DecidableEq β]

/-- A taken place belongs to the first of the entities before that came to it. -/
def TakenBy (place : α → β) (before : List α) (taken : List (β × Nat)) : Prop :=
  ∀ p, takenBy? taken p = before.findIdx? fun x => place x = p

theorem takenBy?_cons (taken : List (β × Nat)) (p q : β) (i : Nat) :
    takenBy? ((p, i) :: taken) q = if p = q then some i else takenBy? taken q := by
  by_cases h : p = q <;> simp [takenBy?, h]

/-- The place of the next entity stays with the one that took it, or goes to the next entity. -/
theorem takenBy_next {place : α → β} {before : List α} {taken : List (β × Nat)}
    (h : TakenBy place before taken) (x : α) :
    TakenBy place (before ++ [x]) (take taken (place x) before.length) := by
  intro p
  rw [List.findIdx?_append, ← h p]
  unfold take
  by_cases htaken : (takenBy? taken (place x)).isSome
  · rw [if_pos htaken]
    by_cases hp : place x = p
    · subst hp
      obtain ⟨i, hi⟩ := Option.isSome_iff_exists.mp htaken
      rw [hi]
      rfl
    · simp [hp]
  · rw [if_neg htaken, takenBy?_cons]
    by_cases hp : place x = p
    · subst hp
      have hnone : takenBy? taken (place x) = none := by simpa using htaken
      simp [hnone]
    · simp [hp]

/-! ### Both directions of a cable

A link is filed under its two ends in ascending order, which is the same pair for a cable laid
either way round.
-/

theorem before_asymm {a b : Endpoint} (h : a.before b = true) : b.before a = false := by
  simp only [Endpoint.before, Bool.or_eq_true, Bool.and_eq_true, decide_eq_true_eq] at h
  simp only [Endpoint.before, Bool.or_eq_false_iff, Bool.and_eq_false_iff, decide_eq_false_iff_not]
  rcases h with hlt | ⟨heq, hlt⟩
  · exact ⟨String.lt_asymm hlt, Or.inl fun heq => String.lt_irrefl _ (heq ▸ hlt)⟩
  · exact ⟨heq ▸ String.lt_irrefl _, Or.inr (String.lt_asymm hlt)⟩

theorem eq_of_not_before {a b : Endpoint} (hab : a.before b = false) (hba : b.before a = false) :
    a = b := by
  simp only [Endpoint.before, Bool.or_eq_false_iff, Bool.and_eq_false_iff,
    decide_eq_false_iff_not] at hab hba
  have hdevice : a.device = b.device :=
    String.le_antisymm (String.not_lt.mp hba.1) (String.not_lt.mp hab.1)
  have hinterface : a.interface = b.interface :=
    String.le_antisymm (String.not_lt.mp (hba.2.resolve_left fun h => h hdevice.symm))
      (String.not_lt.mp (hab.2.resolve_left fun h => h hdevice))
  cases a
  cases b
  simp_all

/-- Two links are filed alike exactly if they join the same two interfaces. -/
theorem ends_eq_iff (l m : Link) : l.ends = m.ends ↔ l.joins = m.joins := by
  have hsame : ∀ k : Link, s(k.ends.1, k.ends.2) = k.joins := by
    intro k
    unfold Link.ends Link.joins
    split
    · exact Sym2.eq_swap
    · rfl
  constructor
  · intro h
    rw [← hsame l, ← hsame m, h]
  · intro h
    rcases Sym2.eq_iff.mp h with ⟨h1, h2⟩ | ⟨h1, h2⟩
    · simp [Link.ends, h1, h2]
    · unfold Link.ends
      rw [h1, h2]
      by_cases hsm : m.second.before m.first = true
      · simp [hsm, before_asymm hsm]
      · have hsm' : m.second.before m.first = false := by simpa using hsm
        by_cases hms : m.first.before m.second = true
        · simp [hsm', hms]
        · have hms' : m.first.before m.second = false := by simpa using hms
          rw [eq_of_not_before hms' hsm']

/-! ### The five scans -/

theorem scanDevices_eq (inv : Inventory) (devices : List Device) :
    scanDevices inv [] 0 devices
      = devices.zipIdx.flatMap fun (d, i) =>
          Topology.deviceProblems inv (devices.take i) i d := by
  refine scan_eq_flatMap (scanDevices inv) (fun seen _ d => d.name :: seen) NamesOf
    (Topology.deviceProblems inv)
    (fun _ _ => rfl) (fun _ _ _ _ => rfl) (fun _ _ d h => namesOf_next h d)
    ?_ devices [] [] (by simp [NamesOf])
  intro before seen d h
  have hseen : seen.contains d.name = before.any fun e => e.name = d.name := by
    rw [Bool.eq_iff_iff, List.contains_iff_mem, h d.name]
    simp
  rw [hseen, Topology.deviceProblems_eq]

variable (t : Topology) (inv : Inventory) (rules : Rules)

theorem scanLinks_eq :
    scanLinks inv rules t.deviceNames [] 0 t.links
      = t.links.zipIdx.flatMap fun (l, i) => t.linkProblems inv rules (t.links.take i) i l := by
  refine scan_eq_flatMap (scanLinks inv rules t.deviceNames) (fun taken i l => take taken l.ends i)
    (TakenBy Link.ends) (t.linkProblems inv rules)
    (fun _ _ => rfl) (fun _ _ _ _ => rfl) (fun _ _ l h => takenBy_next h l)
    ?_ t.links [] [] (fun _ => rfl)
  intro before taken l h
  have htaken : takenBy? taken l.ends = firstAt? Link.joins before l := by
    rw [h l.ends]
    simp only [firstAt?, ends_eq_iff]
  simp only [duplicateLink, htaken, Topology.linkProblems_eq]
  cases firstAt? Link.joins before l <;> simp

theorem scanModules_eq :
    scanModules inv rules t.deviceNames [] 0 t.modules
      = t.modules.zipIdx.flatMap fun (m, i) =>
          t.moduleProblems inv rules (t.modules.take i) i m := by
  refine scan_eq_flatMap (scanModules inv rules t.deviceNames)
    (fun taken i m => take taken m.place i) (TakenBy Module.place) (t.moduleProblems inv rules)
    (fun _ _ => rfl) (fun _ _ _ _ => rfl) (fun _ _ m h => takenBy_next h m)
    ?_ t.modules [] [] (fun _ => rfl)
  intro before taken m h
  have htaken : takenBy? taken (m.device, m.slot) = firstAt? Module.place before m := h m.place
  simp only [slotTaken, htaken, Topology.moduleProblems_eq]
  cases firstAt? Module.place before m <;> simp

theorem scanHosts_eq :
    scanHosts rules t.deviceNames 0 t.hosts
      = t.hosts.zipIdx.flatMap fun (h, i) => t.hostProblems rules i h := by
  refine scan_eq_flatMap (fun _ => scanHosts rules t.deviceNames) (fun _ _ _ => ())
    (fun _ _ => True) (fun _ => t.hostProblems rules)
    (fun _ _ => rfl) (fun _ _ _ _ => rfl) (fun _ _ _ _ => trivial) ?_ t.hosts [] () trivial
  intro _ _ h _
  simp [Topology.hostProblems_eq]

theorem scanRouters_eq :
    scanRouters t.deviceNames 0 t.routers
      = t.routers.zipIdx.flatMap fun (r, i) => t.routerProblems i r := by
  refine scan_eq_flatMap (fun _ => scanRouters t.deviceNames) (fun _ _ _ => ())
    (fun _ _ => True) (fun _ => t.routerProblems)
    (fun _ _ => rfl) (fun _ _ _ _ => rfl) (fun _ _ _ _ => trivial) ?_ t.routers [] () trivial
  intro _ _ r _
  simp [Topology.routerProblems_eq]

end Validation

/-! ### Whom a message blames -/

namespace Diagnostic

/-- The message about a second link in one place names the first one. -/
theorem message_duplicateLink (i f : Nat) (l : Link) : ∃ rest, (duplicateLink i f l).message
    = "links[" ++ Text.decimal i ++ "]: duplicates links[" ++ Text.decimal f ++ "]" ++ rest := by
  refine ⟨" between " ++ quote l.first.device ++ " " ++ l.first.interface ++ " and "
    ++ quote l.second.device ++ " " ++ l.second.interface, String.toList_inj.mp ?_⟩
  simp [message, place]

/-- The message about a second module in one slot names the first one. -/
theorem message_slotTaken (i f : Nat) (device : String) (slot : UInt32) :
    ∃ front, (slotTaken i f device slot).message
      = "modules[" ++ Text.decimal i ++ "]" ++ front ++ " already taken by modules["
        ++ Text.decimal f ++ "]" := by
  refine ⟨" on " ++ quote device ++ ": slot " ++ Text.decimal slot.toNat, String.toList_inj.mp ?_⟩
  simp [message, place]

end Diagnostic

namespace Topology

/-- The scans together give the diagnostics of every entity. -/
theorem problems_eq (t : Topology) (inv : Inventory) (rules : Rules) :
    t.problems inv rules = t.problemsByEntity inv rules := by
  unfold problems problemsByEntity
  rw [Validation.scanDevices_eq, Validation.scanLinks_eq, Validation.scanModules_eq,
    Validation.scanHosts_eq, Validation.scanRouters_eq]

/--
**Validation says of every entity what its place in the topology says, and nothing else.**

The earlier link or module that a message blames is the first one at the place.
-/
theorem validate_eq_by_entity (t : Topology) (inv : Inventory) (rules : Rules) :
    t.validate inv rules = (t.problemsByEntity inv rules).map Diagnostic.message ∧
      (∀ i l f, firstAt? Link.joins (t.links.take i) l = some f ↔
        IsLeast {j | j < i ∧ ∃ k, t.links[j]? = some k ∧ k.joins = l.joins} f) ∧
      (∀ i m f, firstAt? Module.place (t.modules.take i) m = some f ↔
        IsLeast {j | j < i ∧ ∃ k, t.modules[j]? = some k ∧ k.place = m.place} f) ∧
      (∀ i f l, ∃ rest, (Diagnostic.duplicateLink i f l).message = "links[" ++ Text.decimal i
        ++ "]: duplicates links[" ++ Text.decimal f ++ "]" ++ rest) ∧
      ∀ i f device slot, ∃ front, (Diagnostic.slotTaken i f device slot).message
        = "modules[" ++ Text.decimal i ++ "]" ++ front ++ " already taken by modules["
          ++ Text.decimal f ++ "]" := by
  refine ⟨?_, fun _ _ _ => firstAt?_take_eq_some_iff, fun _ _ _ => firstAt?_take_eq_some_iff,
    Diagnostic.message_duplicateLink, Diagnostic.message_slotTaken⟩
  rw [validate, problems_eq]

/-- A topology with every problem there is. -/
example : validate
    { devices := [⟨"R1", "2911", .ofNat 0, .ofNat 0⟩, ⟨"R1", "1111", .ofNat 0, .ofNat 0⟩]
      modules := [⟨"R1", 0, "WIC-2T"⟩, ⟨"R1", 0, "WIC-3T"⟩, ⟨"S1", 1, "WIC-2T"⟩]
      links := [⟨⟨"R1", "Fa0"⟩, ⟨"S1", "Fa1"⟩, "cross"⟩, ⟨⟨"S1", "Fa1"⟩, ⟨"R1", "Fa0"⟩, "rope"⟩]
      hosts := [⟨"PC1", some true, none, none, none, some "10.0.0.1"⟩]
      routers := [⟨"R2", "enable"⟩] } ⟨fun _ => ["2911", "WIC-2T", "cross"]⟩ .strict
    = ["devices[1]: duplicate device name \"R1\"",
      "devices[1] \"R1\": unknown device model \"1111\"",
      "links[0]: unknown device \"S1\" (device2Name)",
      "links[1]: unknown device \"S1\" (device1Name)",
      "links[1]: unknown link type \"rope\"",
      "links[1]: duplicates links[0] between \"S1\" Fa1 and \"R1\" Fa0",
      "modules[1] on \"R1\": unknown module model \"WIC-3T\"",
      "modules[1] on \"R1\": slot 0 already taken by modules[0]",
      "modules[2]: unknown device \"S1\"",
      "pcConfigs[0]: unknown device \"PC1\"",
      "pcConfigs[0] on \"PC1\": DHCP enabled together with static address fields",
      "iosConfigs[0]: unknown device \"R2\""] := by decide +kernel

end Topology

end NetDraft
