/-
How many diagnostics there are.

Of several entities at one place the scans blame all but the first, so that other entities are
blamed if the lists stand in another order, and in other words if a cable is laid the other way
round.  Their number stays the same.  What an entity adds by itself does not depend on its
position, and the entities that find their place taken are as many as the list has more entities
than places: `countP_flatMap_zipIdx` is the one count behind all five lists.
-/
import Mathlib.Algebra.BigOperators.Group.List.Basic
import Mathlib.Algebra.Ring.Nat
import Mathlib.Data.Finset.Card
import NetDraft.Proofs.Validation.WellFormed

namespace NetDraft

/-- The cable laid the other way round. -/
def Link.flipped (l : Link) : Link := ⟨l.second, l.first, l.cable⟩

/-- A link that may have been laid the other way round. -/
def Link.Turned (l l' : Link) : Prop := l' = l ∨ l' = l.flipped

/-- The same entities in other orders, with some cables laid the other way round. -/
structure Topology.Rearranges (t t' : Topology) : Prop where
  devices : t.devices.Perm t'.devices
  modules : t.modules.Perm t'.modules
  links : ∃ links, t.links.Perm links ∧ List.Forall₂ Link.Turned links t'.links
  hosts : t.hosts.Perm t'.hosts
  routers : t.routers.Perm t'.routers

/-! ### Counting what stands at a taken place -/

section

variable {α β γ : Type} [DecidableEq β]

/-- How many elements of a list stand where an earlier one does. -/
def repeated (place : α → β) (l : List α) : Nat := l.length - (l.map place).toFinset.card

theorem repeated_concat (place : α → β) (l : List α) (x : α) :
    repeated place (l ++ [x])
      = repeated place l + if (firstAt? place l x).isSome then 1 else 0 := by
  have hcard : (l.map place).toFinset.card ≤ l.length := by
    simpa using List.toFinset_card_le (l.map place)
  have htaken : (firstAt? place l x).isSome = true ↔ place x ∈ (l.map place).toFinset := by
    rw [← Option.ne_none_iff_isSome, ne_eq, firstAt?_eq_none]
    simp
  have hplaces : ((l ++ [x]).map place).toFinset = insert (place x) (l.map place).toFinset := by
    rw [List.map_append, List.toFinset_append, Finset.union_comm]
    simp [Finset.singleton_union]
  unfold repeated
  rw [hplaces, List.length_append, List.length_singleton]
  by_cases hx : place x ∈ (l.map place).toFinset
  · rw [Finset.insert_eq_of_mem hx, if_pos (htaken.mpr hx)]
    omega
  · rw [Finset.card_insert_of_notMem hx, if_neg fun h => hx (htaken.mp h)]
    omega

theorem repeated_congr {place : α → β} {l l' : List α}
    (h : (l.map place).Perm (l'.map place)) : repeated place l = repeated place l' := by
  have hlength : l.length = l'.length := by simpa using h.length_eq
  rw [repeated, repeated, hlength, List.toFinset_eq_of_perm _ _ h]

/--
The count of the diagnostics of a list.

If every entity has some diagnostics of its own, and one more if its place is taken and that
counts, then the list has those of its entities, and one for each of its repetitions.
-/
theorem countP_flatMap_zipIdx {p : γ → Bool} {f : List α → Nat → α → List γ} {own : α → Nat}
    {place : α → β} {counts : Bool}
    (h : ∀ before i x, (f before i x).countP p
      = own x + if counts then (if (firstAt? place before x).isSome then 1 else 0) else 0)
    (l : List α) :
    (l.zipIdx.flatMap fun (x, i) => f (l.take i) i x).countP p
      = (l.map own).sum + if counts then repeated place l else 0 := by
  induction l using List.reverseRecOn with
  | nil => cases counts <;> rfl
  | append_singleton l x ih =>
      rw [flatMap_zipIdx_concat, List.countP_append, ih]
      simp only [h, List.map_append, List.map_singleton, List.sum_append, List.sum_singleton,
        repeated_concat]
      cases counts <;> simp
      omega

/-- What counts and holds of an element is counted if it counts. -/
theorem sum_map_ite (c : Bool) (p : α → Bool) (l : List α) :
    (l.map fun x => if c && p x then 1 else 0).sum = if c then l.countP p else 0 := by
  induction l with
  | nil => cases c <;> rfl
  | cons x l ih =>
      rw [List.map_cons, List.sum_cons, ih, List.countP_cons]
      cases c <;> simp [Nat.add_comm]

end

/-! ### What a diagnostic is for -/

namespace Diagnostic

/-- The reasons for diagnostics, whatever entity they are about. -/
inductive Reason where
  | duplicateName
  | unknownDeviceModel
  | unknownFirstEnd
  | unknownSecondEnd
  | unknownCable
  | duplicateLink
  | moduleWithoutDevice
  | unknownModuleModel
  | slotTaken
  | hostWithoutDevice
  | dhcpAndStatic
  | routerWithoutDevice
deriving DecidableEq

/-- All reasons. -/
def Reason.all : List Reason :=
  [duplicateName, unknownDeviceModel, unknownFirstEnd, unknownSecondEnd, unknownCable,
    duplicateLink, moduleWithoutDevice, unknownModuleModel, slotTaken, hostWithoutDevice,
    dhcpAndStatic, routerWithoutDevice]

/-- The reason for a diagnostic. -/
def reason : Diagnostic → Reason
  | duplicateName .. => .duplicateName
  | unknownDeviceModel .. => .unknownDeviceModel
  | unknownFirstEnd .. => .unknownFirstEnd
  | unknownSecondEnd .. => .unknownSecondEnd
  | unknownCable .. => .unknownCable
  | duplicateLink .. => .duplicateLink
  | moduleWithoutDevice .. => .moduleWithoutDevice
  | unknownModuleModel .. => .unknownModuleModel
  | slotTaken .. => .slotTaken
  | hostWithoutDevice .. => .hostWithoutDevice
  | dhcpAndStatic .. => .dhcpAndStatic
  | routerWithoutDevice .. => .routerWithoutDevice

end Diagnostic

open Diagnostic (Reason)

namespace Topology

variable (t : Topology) (inv : Inventory) (rules : Rules)

/-- How many diagnostics a topology has for a reason. -/
def troubles : Reason → Nat
  | .duplicateName => repeated Device.name t.devices
  | .unknownDeviceModel => t.devices.countP fun d => !inv.has .devices d.model
  | .unknownFirstEnd => t.links.countP fun l => l.first.device ∉ t.deviceNames
  | .unknownSecondEnd => t.links.countP fun l => l.second.device ∉ t.deviceNames
  | .unknownCable => t.links.countP fun l => !inv.has .links l.cable
  | .duplicateLink => if rules.duplicateLinks then repeated Link.joins t.links else 0
  | .moduleWithoutDevice => t.modules.countP fun m => m.device ∉ t.deviceNames
  | .unknownModuleModel => t.modules.countP fun m => !inv.has .modules m.model
  | .slotTaken => if rules.slotCollisions then repeated Module.place t.modules else 0
  | .hostWithoutDevice => t.hosts.countP fun h => h.device ∉ t.deviceNames
  | .dhcpAndStatic =>
    t.hosts.countP fun h => rules.dhcpAndStatic && h.dhcp == some true && h.hasStatic
  | .routerWithoutDevice => t.routers.countP fun r => r.device ∉ t.deviceNames

/-- The number for a reason that counts. -/
def counted (q : Reason → Bool) (r : Reason) : Nat := if q r then t.troubles inv rules r else 0

/-! ### The five lists -/

variable (q : Reason → Bool)

theorem countP_devices :
    (t.devices.zipIdx.flatMap fun (d, i) => deviceProblems inv (t.devices.take i) i d).countP
        (fun d => q d.reason)
      = t.counted inv rules q .duplicateName + t.counted inv rules q .unknownDeviceModel := by
  have hone : ∀ before i d, (deviceProblems inv before i d).countP (fun d => q d.reason)
      = (if q .unknownDeviceModel && !inv.has .devices d.model then 1 else 0)
        + if q .duplicateName then
            (if (firstAt? Device.name before d).isSome then 1 else 0) else 0 := by
    intro before i d
    have htaken : (before.any fun e => e.name = d.name)
        = (firstAt? Device.name before d).isSome := by
      rw [firstAt?, List.findIdx?_isSome]
    rw [deviceProblems_eq, List.countP_append, countP_reportIf, countP_reportIf, htaken,
      Nat.add_comm]
    cases hq : q .duplicateName <;> simp [Diagnostic.reason, hq]
  rw [countP_flatMap_zipIdx hone, sum_map_ite, Nat.add_comm]
  rfl

theorem countP_links :
    (t.links.zipIdx.flatMap fun (l, i) => t.linkProblems inv rules (t.links.take i) i l).countP
        (fun d => q d.reason)
      = t.counted inv rules q .unknownFirstEnd + t.counted inv rules q .unknownSecondEnd
        + t.counted inv rules q .unknownCable + t.counted inv rules q .duplicateLink := by
  have hone : ∀ before i l, (t.linkProblems inv rules before i l).countP (fun d => q d.reason)
      = ((if q .unknownFirstEnd && decide (l.first.device ∉ t.deviceNames) then 1 else 0)
          + (if q .unknownSecondEnd && decide (l.second.device ∉ t.deviceNames) then 1 else 0)
          + (if q .unknownCable && !inv.has .links l.cable then 1 else 0))
        + if q .duplicateLink && rules.duplicateLinks then
            (if (firstAt? Link.joins before l).isSome then 1 else 0) else 0 := by
    intro before i l
    rw [linkProblems_eq, List.countP_append, List.countP_append, List.countP_append,
      countP_reportIf, countP_reportIf, countP_reportIf]
    cases firstAt? Link.joins before l <;> simp [countP_reportIf, Diagnostic.reason]
  rw [countP_flatMap_zipIdx hone, List.sum_map_add, List.sum_map_add, sum_map_ite, sum_map_ite,
    sum_map_ite]
  cases hq : q .duplicateLink <;> simp [counted, troubles, hq]

theorem countP_modules :
    (t.modules.zipIdx.flatMap fun (m, i) =>
        t.moduleProblems inv rules (t.modules.take i) i m).countP (fun d => q d.reason)
      = t.counted inv rules q .moduleWithoutDevice + t.counted inv rules q .unknownModuleModel
        + t.counted inv rules q .slotTaken := by
  have hone : ∀ before i m, (t.moduleProblems inv rules before i m).countP (fun d => q d.reason)
      = ((if q .moduleWithoutDevice && decide (m.device ∉ t.deviceNames) then 1 else 0)
          + (if q .unknownModuleModel && !inv.has .modules m.model then 1 else 0))
        + if q .slotTaken && rules.slotCollisions then
            (if (firstAt? Module.place before m).isSome then 1 else 0) else 0 := by
    intro before i m
    rw [moduleProblems_eq, List.countP_append, List.countP_append, countP_reportIf, countP_reportIf]
    cases firstAt? Module.place before m <;> simp [countP_reportIf, Diagnostic.reason]
  rw [countP_flatMap_zipIdx hone, List.sum_map_add, sum_map_ite, sum_map_ite]
  cases hq : q .slotTaken <;> simp [counted, troubles, hq]

theorem countP_hosts :
    (t.hosts.zipIdx.flatMap fun (h, i) => t.hostProblems rules i h).countP (fun d => q d.reason)
      = t.counted inv rules q .hostWithoutDevice + t.counted inv rules q .dhcpAndStatic := by
  have hone : ∀ (before : List HostAddressing) (i : Nat) h,
      (t.hostProblems rules i h).countP (fun d => q d.reason)
        = ((if q .hostWithoutDevice && decide (h.device ∉ t.deviceNames) then 1 else 0)
            + if q .dhcpAndStatic && (rules.dhcpAndStatic && h.dhcp == some true && h.hasStatic)
              then 1 else 0)
          + if false then (if (firstAt? id before h).isSome then 1 else 0) else 0 := by
    intro _ i h
    rw [hostProblems_eq, List.countP_append, countP_reportIf, countP_reportIf]
    rfl
  rw [countP_flatMap_zipIdx (f := fun _ => t.hostProblems rules) hone, List.sum_map_add,
    sum_map_ite, sum_map_ite]
  rfl

theorem countP_routers :
    (t.routers.zipIdx.flatMap fun (r, i) => t.routerProblems i r).countP (fun d => q d.reason)
      = t.counted inv rules q .routerWithoutDevice := by
  have hone : ∀ (before : List RouterCommands) (i : Nat) r,
      (t.routerProblems i r).countP (fun d => q d.reason)
        = (if q .routerWithoutDevice && decide (r.device ∉ t.deviceNames) then 1 else 0)
          + if false then (if (firstAt? id before r).isSome then 1 else 0) else 0 := by
    intro _ i r
    rw [routerProblems_eq, countP_reportIf]
    rfl
  rw [countP_flatMap_zipIdx (f := fun _ => t.routerProblems) hone, sum_map_ite]
  rfl

/-- **The diagnostics for any reasons, counted.** -/
theorem countP_problems :
    (t.problems inv rules).countP (fun d => q d.reason)
      = (Reason.all.map (t.counted inv rules q)).sum := by
  rw [problems_eq, problemsByEntity]
  simp only [List.countP_append, countP_devices t inv rules, countP_links, countP_modules,
    countP_hosts t inv rules, countP_routers t inv rules, Reason.all, List.map_cons, List.map_nil,
    List.sum_cons, List.sum_nil]
  omega

/-- The diagnostics for one reason. -/
theorem countP_reason (r : Reason) :
    (t.problems inv rules).countP (fun d => d.reason = r) = t.troubles inv rules r := by
  rw [countP_problems t inv rules fun r' => r' = r]
  cases r <;> simp [Reason.all, counted]

/-- All diagnostics. -/
theorem length_validate :
    (t.validate inv rules).length = (Reason.all.map (t.troubles inv rules)).sum := by
  have hall := t.countP_problems inv rules fun _ => true
  rw [List.countP_true] at hall
  rw [validate, List.length_map, hall]
  rfl

/-! ### Other orders -/

/-- What does not tell the ends of a link apart is the same for links that were turned. -/
theorem map_eq_of_turned {β : Type} {g : Link → β} (hg : ∀ l : Link, g l.flipped = g l)
    {links links' : List Link} (h : List.Forall₂ Link.Turned links links') :
    links.map g = links'.map g := by
  induction h with
  | nil => rfl
  | cons hl _ ih => rcases hl with rfl | rfl <;> simp [hg, ih]

namespace Rearranges

variable {t t' : Topology} (inv : Inventory) (rules : Rules)

theorem perm_map_links (h : t.Rearranges t') {β : Type} {g : Link → β}
    (hg : ∀ l : Link, g l.flipped = g l) : (t.links.map g).Perm (t'.links.map g) := by
  obtain ⟨links, hperm, hturned⟩ := h.links
  rw [← map_eq_of_turned hg hturned]
  exact hperm.map g

theorem mem_deviceNames (h : t.Rearranges t') (name : String) :
    name ∈ t'.deviceNames ↔ name ∈ t.deviceNames := (h.devices.map Device.name).mem_iff.symm

/-- For most reasons there are as many diagnostics. -/
theorem troubles_eq (h : t.Rearranges t') {r : Reason} (hfirst : r ≠ .unknownFirstEnd)
    (hsecond : r ≠ .unknownSecondEnd) : t.troubles inv rules r = t'.troubles inv rules r := by
  cases r with
  | unknownFirstEnd => exact absurd rfl hfirst
  | unknownSecondEnd => exact absurd rfl hsecond
  | duplicateName => exact repeated_congr (h.devices.map _)
  | unknownDeviceModel => exact h.devices.countP_eq _
  | unknownCable =>
      have hcables := (h.perm_map_links (g := Link.cable) fun _ => rfl).countP_eq
        fun cable => !inv.has .links cable
      rw [List.countP_map, List.countP_map] at hcables
      exact hcables
  | duplicateLink =>
      have hjoins := repeated_congr (h.perm_map_links (g := Link.joins) fun _ => Sym2.eq_swap)
      simp only [troubles, hjoins]
  | slotTaken =>
      have hplaces := repeated_congr (h.modules.map Module.place)
      simp only [troubles, hplaces]
  | moduleWithoutDevice =>
      simp only [troubles, h.mem_deviceNames]
      exact h.modules.countP_eq _
  | unknownModuleModel => exact h.modules.countP_eq _
  | hostWithoutDevice =>
      simp only [troubles, h.mem_deviceNames]
      exact h.hosts.countP_eq _
  | dhcpAndStatic => exact h.hosts.countP_eq _
  | routerWithoutDevice =>
      simp only [troubles, h.mem_deviceNames]
      exact h.routers.countP_eq _

/-- A cable that is turned takes an unknown device from one of its ends to the other. -/
theorem troubles_ends (h : t.Rearranges t') :
    t.troubles inv rules .unknownFirstEnd + t.troubles inv rules .unknownSecondEnd
      = t'.troubles inv rules .unknownFirstEnd + t'.troubles inv rules .unknownSecondEnd := by
  have hends : ∀ links : List Link,
      (links.countP fun l => l.first.device ∉ t.deviceNames)
          + (links.countP fun l => l.second.device ∉ t.deviceNames)
        = (links.map fun l => (if true && decide (l.first.device ∉ t.deviceNames) then 1 else 0)
          + if true && decide (l.second.device ∉ t.deviceNames) then 1 else 0).sum := by
    intro links
    rw [List.sum_map_add, sum_map_ite, sum_map_ite]
    rfl
  simp only [troubles, h.mem_deviceNames]
  rw [hends, hends]
  exact (h.perm_map_links fun _ => Nat.add_comm _ _).sum_eq

theorem length_validate_eq (h : t.Rearranges t') :
    (t.validate inv rules).length = (t'.validate inv rules).length := by
  have hends := h.troubles_ends inv rules
  rw [length_validate, length_validate]
  simp only [Reason.all, List.map_cons, List.map_nil, List.sum_cons, List.sum_nil]
  simp (disch := decide) only [h.troubles_eq inv rules]
  omega

end Rearranges

/--
**The verdict depends neither on the order of entry nor on the direction of cables.**

Entities in other orders and cables laid the other way round give as many diagnostics.  Those for a
name, a pair of interfaces or a slot that was taken are as many as there are more entities than
names, pairs or slots.
-/
theorem verdict_of_rearranged (t : Topology) (inv : Inventory) (rules : Rules) :
    (∀ t', t.Rearranges t' →
        (t'.validate inv rules).length = (t.validate inv rules).length ∧
          (t'.validate inv rules = [] ↔ t.validate inv rules = [])) ∧
      (t.problems inv rules).countP (fun d => d.reason = .duplicateName)
        = t.devices.length - t.deviceNames.toFinset.card ∧
      (t.problems inv rules).countP (fun d => d.reason = .duplicateLink)
        = (if rules.duplicateLinks then
            t.links.length - (t.links.map Link.joins).toFinset.card else 0) ∧
      (t.problems inv rules).countP (fun d => d.reason = .slotTaken)
        = (if rules.slotCollisions then
            t.modules.length - (t.modules.map Module.place).toFinset.card else 0) := by
  refine ⟨?_, t.countP_reason inv rules _, t.countP_reason inv rules _,
    t.countP_reason inv rules _⟩
  intro t' h
  have hlength := h.length_validate_eq inv rules
  refine ⟨hlength.symm, ?_⟩
  rw [← List.length_eq_zero_iff, ← List.length_eq_zero_iff, hlength]

/-- A cable that was entered from either end, and a cable from an interface to itself. -/
def crossed : Topology where
  devices := [⟨"R1", "2811", .ofNat 0, .ofNat 0⟩, ⟨"S1", "2960-24TT", .ofNat 1, .ofNat 0⟩]
  modules := [⟨"R1", 0, "HWIC-2T"⟩, ⟨"R1", 0, "WIC-1T"⟩]
  links := [
    ⟨⟨"R1", "Fa0/0"⟩, ⟨"S1", "Fa0/1"⟩, "Fiber"⟩,
    ⟨⟨"S1", "Fa0/1"⟩, ⟨"R1", "Fa0/0"⟩, "Fiber"⟩,
    ⟨⟨"S1", "Fa0/2"⟩, ⟨"S1", "Fa0/2"⟩, "Fiber"⟩]
  hosts := []
  routers := []

/-- The same, entered from the end, and the first cable laid the other way round. -/
def crossedBackwards : Topology where
  devices := crossed.devices.reverse
  modules := crossed.modules.reverse
  links := [
    ⟨⟨"S1", "Fa0/2"⟩, ⟨"S1", "Fa0/2"⟩, "Fiber"⟩,
    ⟨⟨"S1", "Fa0/1"⟩, ⟨"R1", "Fa0/0"⟩, "Fiber"⟩,
    ⟨⟨"S1", "Fa0/1"⟩, ⟨"R1", "Fa0/0"⟩, "Fiber"⟩]
  hosts := []
  routers := []

theorem verdict_of_crossed : crossed.Rearranges crossedBackwards ∧
    (crossedBackwards.validate ⟨fun _ => ["2811", "HWIC-2T"]⟩ .strict).length
      = (crossed.validate ⟨fun _ => ["2811", "HWIC-2T"]⟩ .strict).length := by
  have h : crossed.Rearranges crossedBackwards := by
    refine ⟨(List.reverse_perm _).symm, (List.reverse_perm _).symm,
      ⟨crossed.links.reverse, (List.reverse_perm _).symm, ?_⟩, List.Perm.nil, List.Perm.nil⟩
    exact .cons (Or.inl rfl) (.cons (Or.inl rfl) (.cons (Or.inr rfl) .nil))
  exact ⟨h, ((verdict_of_rearranged crossed _ _).1 _ h).1⟩

end Topology

end NetDraft
