/-
The things a topology is drafted from.

Positions are exact numbers, and never infinite or not a number.  Entities name devices but do not
hold them: whether a name belongs to a device is a question for validation.  The only thing asked
of an entity by itself is that the texts it cannot do without are not empty.
-/
import NetDraft.Number

namespace NetDraft

/-! ### Positions -/

/-- A position on the canvas, along one of its axes. -/
abbrev Coordinate := Number

/-- A position would not be a finite number. -/
structure NonFinite where
  value : Extended64
deriving DecidableEq

/-- The words in which the fault is reported. -/
def NonFinite.message (f : NonFinite) : String :=
  "coordinate must be a finite number, got " ++ f.value.text Number.layout

/-- The coordinate of a binary64 number, which has to be finite. -/
def Number.ofExtended : Extended64 → Except NonFinite Coordinate
  | .finite x => .ok (.float x)
  | other => .error ⟨other⟩

/-! ### The entities -/

/-- A device on the canvas. -/
structure Device where
  name : String
  model : String
  x : Coordinate
  y : Coordinate
deriving DecidableEq

/-- A hardware module in a slot of a device. -/
structure Module where
  device : String
  slot : UInt32
  model : String
deriving DecidableEq

/-- One end of a link: a device and one of its interfaces. -/
structure Endpoint where
  device : String
  interface : String
deriving DecidableEq

/-- A cable between two interfaces. -/
structure Link where
  first : Endpoint
  second : Endpoint
  cable : String
deriving DecidableEq

/-- The address settings of an end host. -/
structure HostAddressing where
  device : String
  dhcp : Option Bool
  address : Option String
  mask : Option String
  gateway : Option String
  dns : Option String
deriving DecidableEq

/-- The commands to enter on a router or switch, one on each line. -/
structure RouterCommands where
  device : String
  commands : String
deriving DecidableEq

/-- Whether any address is set by hand. -/
def HostAddressing.hasStatic (h : HostAddressing) : Bool :=
  h.address.isSome || h.mask.isSome || h.gateway.isSome || h.dns.isSome

/-- Any of the things a topology is drafted from. -/
inductive Entity where
  | device (d : Device)
  | hardware (m : Module)
  | link (l : Link)
  | host (h : HostAddressing)
  | router (r : RouterCommands)
deriving DecidableEq

/-! ### The entities of one sort -/

namespace Entity

/-- The device, if it is one. -/
def device? : Entity → Option Device
  | .device d => some d
  | _ => none

/-- The hardware module, if it is one. -/
def hardware? : Entity → Option Module
  | .hardware m => some m
  | _ => none

/-- The link, if it is one. -/
def link? : Entity → Option Link
  | .link l => some l
  | _ => none

/-- The host addressing, if it is one. -/
def host? : Entity → Option HostAddressing
  | .host h => some h
  | _ => none

/-- The router commands, if they are. -/
def router? : Entity → Option RouterCommands
  | .router r => some r
  | _ => none

end Entity

/-! ### Required texts -/

/-- A text that an entity cannot do without is empty. -/
structure EmptyField where
  entity : String
  field : String
deriving DecidableEq, Repr

/-- The words in which the fault is reported. -/
def EmptyField.message (e : EmptyField) : String :=
  e.entity ++ "." ++ e.field ++ " must not be empty"

namespace Entity

/-- The name of the sort of entity in messages. -/
def sort : Entity → String
  | .device _ => "device"
  | .hardware _ => "module"
  | .link _ => "link"
  | .host _ => "pcIpConfig"
  | .router _ => "iosConfig"

/-- The texts that must not be empty, with the names of their fields. -/
def requiredTexts : Entity → List (String × String)
  | .device d => [("name", d.name), ("model", d.model)]
  | .hardware m => [("deviceName", m.device), ("model", m.model)]
  | .link l => [("device1Name", l.first.device), ("device1Interface", l.first.interface),
      ("device2Name", l.second.device), ("device2Interface", l.second.interface),
      ("linkType", l.cable)]
  | .host h => [("deviceName", h.device)]
  | .router r => [("deviceName", r.device), ("commands", r.commands)]

/-- Accepts an entity without empty required texts, and otherwise names the first one. -/
def check (e : Entity) : Except EmptyField Unit :=
  match e.requiredTexts.find? fun field => field.2.isEmpty with
  | some field => .error ⟨e.sort, field.1⟩
  | none => .ok ()

end Entity

end NetDraft
