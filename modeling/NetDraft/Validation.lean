/-
Checking a topology against an inventory and a set of rules.

The five lists are scanned in a fixed order, each from its front, and every problem gives one
diagnostic.  A device may be named before it is appended: the names are those of the whole list of
devices.  Three rules are optional; the scans for them remember which entity came first, and blame
the later ones.
-/
import NetDraft.Catalog
import NetDraft.Topology

namespace NetDraft

/-- The optional rules. -/
structure Rules where
  /-- No two links join the same two interfaces. -/
  duplicateLinks : Bool
  /-- No two modules sit in the same slot. -/
  slotCollisions : Bool
  /-- No host asks for addresses while some are set by hand. -/
  dhcpAndStatic : Bool
deriving DecidableEq, Repr

namespace Rules

/-- No optional rule. -/
def none : Rules := ⟨false, false, false⟩

/-- All optional rules. -/
def strict : Rules := ⟨true, true, true⟩

end Rules

/-- A problem of the entity at a position of its list. -/
inductive Diagnostic where
  | duplicateName (index : Nat) (name : String)
  | unknownDeviceModel (index : Nat) (name model : String)
  | unknownFirstEnd (index : Nat) (device : String)
  | unknownSecondEnd (index : Nat) (device : String)
  | unknownCable (index : Nat) (cable : String)
  | duplicateLink (index earlier : Nat) (link : Link)
  | moduleWithoutDevice (index : Nat) (device : String)
  | unknownModuleModel (index : Nat) (device model : String)
  | slotTaken (index earlier : Nat) (device : String) (slot : UInt32)
  | hostWithoutDevice (index : Nat) (device : String)
  | dhcpAndStatic (index : Nat) (device : String)
  | routerWithoutDevice (index : Nat) (device : String)
deriving DecidableEq

namespace Diagnostic

/-- The name of a list with a position in it. -/
def place (list : String) (index : Nat) : String := list ++ "[" ++ Text.decimal index ++ "]"

/-- A text between quotes, as it stands. -/
def quote (s : String) : String := "\"" ++ s ++ "\""

/-- The words in which the problem is reported. -/
def message : Diagnostic → String
  | duplicateName i name => place "devices" i ++ ": duplicate device name " ++ quote name
  | unknownDeviceModel i name model =>
    place "devices" i ++ " " ++ quote name ++ ": unknown device model " ++ quote model
  | unknownFirstEnd i device =>
    place "links" i ++ ": unknown device " ++ quote device ++ " (device1Name)"
  | unknownSecondEnd i device =>
    place "links" i ++ ": unknown device " ++ quote device ++ " (device2Name)"
  | unknownCable i cable => place "links" i ++ ": unknown link type " ++ quote cable
  | duplicateLink i earlier link =>
    place "links" i ++ ": duplicates " ++ place "links" earlier ++ " between "
      ++ quote link.first.device ++ " " ++ link.first.interface ++ " and "
      ++ quote link.second.device ++ " " ++ link.second.interface
  | moduleWithoutDevice i device => place "modules" i ++ ": unknown device " ++ quote device
  | unknownModuleModel i device model =>
    place "modules" i ++ " on " ++ quote device ++ ": unknown module model " ++ quote model
  | slotTaken i earlier device slot =>
    place "modules" i ++ " on " ++ quote device ++ ": slot " ++ Text.decimal slot.toNat
      ++ " already taken by " ++ place "modules" earlier
  | hostWithoutDevice i device => place "pcConfigs" i ++ ": unknown device " ++ quote device
  | dhcpAndStatic i device =>
    place "pcConfigs" i ++ " on " ++ quote device
      ++ ": DHCP enabled together with static address fields"
  | routerWithoutDevice i device => place "iosConfigs" i ++ ": unknown device " ++ quote device

end Diagnostic

/-- A diagnostic, if there is reason for it. -/
def reportIf (problem : Bool) (d : Diagnostic) : List Diagnostic := if problem then [d] else []

section

variable {problem : Bool} {d x : Diagnostic}

theorem mem_reportIf : x ∈ reportIf problem d ↔ problem = true ∧ x = d := by
  cases problem <;> simp [reportIf]

theorem reportIf_eq_nil : reportIf problem d = [] ↔ problem = false := by
  cases problem <;> simp [reportIf]

theorem countP_reportIf (p : Diagnostic → Bool) (problem : Bool) (d : Diagnostic) :
    (reportIf problem d).countP p = if p d && problem then 1 else 0 := by
  cases problem <;> simp [reportIf, List.countP_cons]

theorem filter_reportIf {q : Diagnostic → Bool} :
    (reportIf problem d).filter q = reportIf (problem && q d) d := by
  cases problem <;> cases hq : q d <;> simp [reportIf, hq]

/-- The reason may be said as a proposition. -/
theorem reportIf_eq_ite {P : Prop} [Decidable P] (h : problem = true ↔ P) :
    reportIf problem d = if P then [d] else [] := by
  simp only [reportIf, h]

end

/-! ### Occupied places

The scans for links and slots keep the places that are taken, each with the position of the
entity that took it. -/

/-- The position of the entity that took a place. -/
def takenBy? {α : Type} [DecidableEq α] (taken : List (α × Nat)) (place : α) : Option Nat :=
  (taken.find? fun entry => entry.1 = place).map (·.2)

/-- The taken places after an entity came to a place: the first one at a place keeps it. -/
def take {α : Type} [DecidableEq α] (taken : List (α × Nat)) (place : α) (index : Nat) :
    List (α × Nat) :=
  if (takenBy? taken place).isSome then taken else (place, index) :: taken

/-- The order of endpoints: by device, then by interface. -/
def Endpoint.before (a b : Endpoint) : Bool :=
  a.device < b.device || (a.device = b.device && a.interface < b.interface)

/-- The two interfaces that a link joins, in one order for both directions of the cable. -/
def Link.ends (l : Link) : Endpoint × Endpoint :=
  if l.second.before l.first then (l.second, l.first) else (l.first, l.second)

/-! ### Scans -/

namespace Validation

variable (inv : Inventory) (rules : Rules) (known : List String)

/-- The diagnostics of devices from position `i` on, `seen` being the names before them. -/
def scanDevices (seen : List String) (i : Nat) : List Device → List Diagnostic
  | [] => []
  | d :: rest =>
    reportIf (seen.contains d.name) (.duplicateName i d.name)
      ++ reportIf (!inv.has .devices d.model) (.unknownDeviceModel i d.name d.model)
      ++ scanDevices (d.name :: seen) (i + 1) rest

/-- The diagnostic of a link whose place is taken. -/
def duplicateLink (taken : List ((Endpoint × Endpoint) × Nat)) (i : Nat) (l : Link) :
    List Diagnostic :=
  match takenBy? taken l.ends with
  | some earlier => reportIf rules.duplicateLinks (.duplicateLink i earlier l)
  | none => []

/-- The diagnostics of links from position `i` on, `taken` being the places of those before. -/
def scanLinks (taken : List ((Endpoint × Endpoint) × Nat)) (i : Nat) : List Link → List Diagnostic
  | [] => []
  | l :: rest =>
    reportIf (!known.contains l.first.device) (.unknownFirstEnd i l.first.device)
      ++ reportIf (!known.contains l.second.device) (.unknownSecondEnd i l.second.device)
      ++ reportIf (!inv.has .links l.cable) (.unknownCable i l.cable)
      ++ duplicateLink rules taken i l
      ++ scanLinks (take taken l.ends i) (i + 1) rest

/-- The diagnostic of a module whose slot is taken. -/
def slotTaken (taken : List ((String × UInt32) × Nat)) (i : Nat) (m : Module) :
    List Diagnostic :=
  match takenBy? taken (m.device, m.slot) with
  | some earlier => reportIf rules.slotCollisions (.slotTaken i earlier m.device m.slot)
  | none => []

/-- The diagnostics of modules from position `i` on, `taken` being the slots of those before. -/
def scanModules (taken : List ((String × UInt32) × Nat)) (i : Nat) : List Module → List Diagnostic
  | [] => []
  | m :: rest =>
    reportIf (!known.contains m.device) (.moduleWithoutDevice i m.device)
      ++ reportIf (!inv.has .modules m.model) (.unknownModuleModel i m.device m.model)
      ++ slotTaken rules taken i m
      ++ scanModules (take taken (m.device, m.slot) i) (i + 1) rest

/-- The diagnostics of host addressing from position `i` on. -/
def scanHosts (i : Nat) : List HostAddressing → List Diagnostic
  | [] => []
  | h :: rest =>
    reportIf (!known.contains h.device) (.hostWithoutDevice i h.device)
      ++ reportIf (rules.dhcpAndStatic && h.dhcp == some true && h.hasStatic)
        (.dhcpAndStatic i h.device)
      ++ scanHosts (i + 1) rest

/-- The diagnostics of router commands from position `i` on. -/
def scanRouters (i : Nat) : List RouterCommands → List Diagnostic
  | [] => []
  | r :: rest =>
    reportIf (!known.contains r.device) (.routerWithoutDevice i r.device)
      ++ scanRouters (i + 1) rest

end Validation

open Validation in
/-- All problems of a topology: devices, links, modules, host addressing, router commands. -/
def Topology.problems (t : Topology) (inv : Inventory) (rules : Rules) : List Diagnostic :=
  scanDevices inv [] 0 t.devices
    ++ scanLinks inv rules t.deviceNames [] 0 t.links
    ++ scanModules inv rules t.deviceNames [] 0 t.modules
    ++ scanHosts rules t.deviceNames 0 t.hosts
    ++ scanRouters t.deviceNames 0 t.routers

/-- The problems of a topology, in words. -/
def Topology.validate (t : Topology) (inv : Inventory) (rules : Rules) : List String :=
  (t.problems inv rules).map Diagnostic.message

end NetDraft
