/-
Topology documents: the entities of a topology as a file lists them, section by section.

A document is turned into a topology by appending its entities one after the other, so that it is
subject to the same check as any other append.
-/
import NetDraft.Entity.Wire
import NetDraft.Topology

namespace NetDraft

/-- The sections of a document. -/
structure Document where
  devices : List Device
  modules : List Module
  links : List Link
  hosts : List HostAddressing
  routers : List RouterCommands
deriving DecidableEq

/-- An entity of a document was refused. -/
structure RefusedEntry where
  sectionName : String
  index : Nat
  reason : EmptyField
deriving DecidableEq

/-- The words in which the refusal is reported. -/
def RefusedEntry.message (r : RefusedEntry) : String :=
  r.sectionName ++ "[" ++ Text.decimal r.index ++ "]: " ++ r.reason.message

namespace Document

/-- Appends the entities of a section from position `i` on. -/
def appendSection (name : String) (i : Nat) (t : Topology) :
    List Entity → Except RefusedEntry Topology
  | [] => .ok t
  | e :: rest =>
    match t.append e with
    | .ok t => appendSection name (i + 1) t rest
    | .error reason => .error ⟨name, i, reason⟩

/-- Appends all entities to a topology with nothing in it. -/
def topology (d : Document) : Except RefusedEntry Topology := do
  let t ← appendSection "devices" 0 .empty (d.devices.map .device)
  let t ← appendSection "modules" 0 t (d.modules.map .hardware)
  let t ← appendSection "links" 0 t (d.links.map .link)
  let t ← appendSection "pcConfigs" 0 t (d.hosts.map .host)
  appendSection "iosConfigs" 0 t (d.routers.map .router)

/-- The section of a document from its values, nothing if it is left out. -/
def readSection {α : Type} [Wire α] (values : Option (List (Wire.shape α).Val)) : List α :=
  (values.getD []).map Wire.ofVal

/-- The values of a section of a document. -/
def writeSection {α : Type} [Wire α] (entities : List α) : Option (List (Wire.shape α).Val) :=
  some (entities.map Wire.toVal)

/-- What is written of a section is read back. -/
theorem readSection_writeSection {α : Type} [Wire α] (entities : List α) :
    readSection (writeSection entities) = entities := by
  simp [readSection, writeSection, Function.comp_def, Wire.ofVal_toVal]

instance : Wire Document where
  shape := .record "TopologyDocument" true
    (.defaulted "devices" (.list (Wire.shape Device))
      (.defaulted "modules" (.list (Wire.shape Module))
        (.defaulted "links" (.list (Wire.shape Link))
          (.defaulted "pcConfigs" (.list (Wire.shape HostAddressing))
            (.defaulted "iosConfigs" (.list (Wire.shape RouterCommands)) .nil)))))
  ofVal := fun (devices, modules, links, hosts, routers, ()) =>
    ⟨readSection devices, readSection modules, readSection links, readSection hosts,
      readSection routers⟩
  toVal d := (writeSection d.devices, writeSection d.modules, writeSection d.links,
    writeSection d.hosts, writeSection d.routers, ())
  ofVal_toVal d := by simp [readSection_writeSection]

end Document

namespace Topology

/-- The document that lists the entities of a topology. -/
def document (t : Topology) : Document := ⟨t.devices, t.modules, t.links, t.hosts, t.routers⟩

/-- The JSON value of a topology is that of its document. -/
def toJson (t : Topology) : Json := Wire.toJson t.document

end Topology

/-- The JSON value of a summary. -/
def Summary.toJson (s : Summary) : Json :=
  .object [
    ("counts", .object [("devices", .ofNat s.devices), ("modules", .ofNat s.modules),
      ("links", .ofNat s.links), ("pcConfigs", .ofNat s.hosts), ("iosConfigs", .ofNat s.routers)]),
    ("deviceNames", .array (s.deviceNames.map .string))]

end NetDraft
