/-
Statements of the scripting language of the simulator.

A statement is one call with positional arguments.  Every sort of entity has its own call with a
fixed number of arguments; an optional argument that was never given is written `undefined`.
-/
import NetDraft.Text.Join
import NetDraft.Text.Quoted
import NetDraft.Topology

namespace NetDraft

/-- One argument of a statement. -/
inductive Literal where
  | text (s : String)
  | number (n : Number)
  | word (n : UInt32)
  | flag (b : Bool)
  | undefined
deriving DecidableEq

namespace Literal

/-- The literal for an optional text. -/
def ofText? : Option String → Literal
  | some s => .text s
  | none => .undefined

/-- The literal for an optional flag. -/
def ofFlag? : Option Bool → Literal
  | some b => .flag b
  | none => .undefined

/-- The text of a literal: strings are quoted, and all else is a bare token. -/
def chars : Literal → List Char
  | .text s => Text.quotedChars s.toList
  | .number n => n.text.toList
  | .word n => Text.digits n.toNat
  | .flag true => "true".toList
  | .flag false => "false".toList
  | .undefined => "undefined".toList

/-- The text of a literal. -/
def render (l : Literal) : String := String.ofList l.chars

end Literal

/-- A call with its arguments. -/
structure Statement where
  call : String
  args : List Literal
deriving DecidableEq

namespace Statement

/-- The text of a statement: the call, its arguments between parentheses and a semicolon. -/
def chars (s : Statement) : List Char :=
  s.call.toList ++ '(' :: (Text.joined [',', ' '] (s.args.map Literal.chars) ++ [')', ';'])

/-- The text of a statement. -/
def render (s : Statement) : String := String.ofList s.chars

/-- The statement that builds an entity. -/
def ofEntity : Entity → Statement
  | .device d => ⟨"addDevice", [.text d.name, .text d.model, .number d.x, .number d.y]⟩
  | .hardware m => ⟨"addModule", [.text m.device, .word m.slot, .text m.model]⟩
  | .link l => ⟨"addLink", [.text l.first.device, .text l.first.interface, .text l.second.device,
      .text l.second.interface, .text l.cable]⟩
  | .host h => ⟨"configurePcIp", [.text h.device, .ofFlag? h.dhcp, .ofText? h.address,
      .ofText? h.mask, .ofText? h.gateway, .ofText? h.dns]⟩
  | .router r => ⟨"configureIosDevice", [.text r.device, .text r.commands]⟩

end Statement

/-- All entities in the order in which a script builds them: devices, modules, links, host
addressing, router commands. -/
def Topology.entities (t : Topology) : List Entity :=
  t.devices.map .device ++ t.modules.map .hardware ++ t.links.map .link ++ t.hosts.map .host
    ++ t.routers.map .router

/-- The statements that build a topology. -/
def Topology.statements (t : Topology) : List Statement := t.entities.map .ofEntity

end NetDraft
