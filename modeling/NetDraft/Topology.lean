/-
A topology under construction: five lists of entities, each in the order of its appends.

Appending checks nothing but the required texts of the entity, and a refused append changes
nothing.
-/
import NetDraft.Entity

namespace NetDraft

/-- The entities drafted so far. -/
structure Topology where
  devices : List Device
  modules : List Module
  links : List Link
  hosts : List HostAddressing
  routers : List RouterCommands
deriving DecidableEq

namespace Topology

/-- The topology with nothing in it. -/
def empty : Topology := ⟨[], [], [], [], []⟩

/-- Whether nothing is in it. -/
def isEmpty (t : Topology) : Bool :=
  t.devices.isEmpty && t.modules.isEmpty && t.links.isEmpty && t.hosts.isEmpty
    && t.routers.isEmpty

/-- The names of the devices, repeated ones included. -/
def deviceNames (t : Topology) : List String := t.devices.map (·.name)

/-- The topology with an entity at the end of its list. -/
def push (t : Topology) : Entity → Topology
  | .device d => { t with devices := t.devices ++ [d] }
  | .hardware m => { t with modules := t.modules ++ [m] }
  | .link l => { t with links := t.links ++ [l] }
  | .host h => { t with hosts := t.hosts ++ [h] }
  | .router r => { t with routers := t.routers ++ [r] }

section

variable (t : Topology) (e : Entity)

@[simp]
theorem push_devices : (t.push e).devices = t.devices ++ e.device?.toList := by
  cases e <;> simp [push, Entity.device?]

@[simp]
theorem push_modules : (t.push e).modules = t.modules ++ e.hardware?.toList := by
  cases e <;> simp [push, Entity.hardware?]

@[simp]
theorem push_links : (t.push e).links = t.links ++ e.link?.toList := by
  cases e <;> simp [push, Entity.link?]

@[simp]
theorem push_hosts : (t.push e).hosts = t.hosts ++ e.host?.toList := by
  cases e <;> simp [push, Entity.host?]

@[simp]
theorem push_routers : (t.push e).routers = t.routers ++ e.router?.toList := by
  cases e <;> simp [push, Entity.router?]

end

/-- Appends an entity whose required texts are not empty. -/
def append (t : Topology) (e : Entity) : Except EmptyField Topology := do
  e.check
  return t.push e

/-- Whether two devices are equal, their positions in value. -/
def sameDevice (a b : Device) : Bool :=
  a.name == b.name && a.model == b.model && a.x.sameValue b.x && a.y.sameValue b.y

/-- Whether two topologies are equal, the positions of their devices in value. -/
def sameAs (a b : Topology) : Bool :=
  a.devices.length == b.devices.length
    && (a.devices.zip b.devices).all (fun pair => sameDevice pair.1 pair.2)
    && a.modules == b.modules && a.links == b.links && a.hosts == b.hosts
    && a.routers == b.routers

end Topology

/-! ### Summary -/

/-- How many entities of each sort there are, and the names of the devices. -/
structure Summary where
  devices : Nat
  modules : Nat
  links : Nat
  hosts : Nat
  routers : Nat
  deviceNames : List String
deriving DecidableEq

/-- Counts the entities of a topology. -/
def Topology.summary (t : Topology) : Summary where
  devices := t.devices.length
  modules := t.modules.length
  links := t.links.length
  hosts := t.hosts.length
  routers := t.routers.length
  deviceNames := t.deviceNames

end NetDraft
