/-
Topologies as lists of entities.

A topology is what is left of a list of entities when each has gone to the list of its own sort.
The five lists forget how entities of different sorts came after one another, and nothing else:
the entities in the order of a script make the same topology again, so that two topologies with
the same entities in that order are the same.
-/
import Mathlib.Data.List.Basic
import NetDraft.Statement

namespace NetDraft

namespace Topology

/-- A topology with one entity more: the list of its sort ends in it, and the other lists are as
they were. -/
structure Gains (t : Topology) (e : Entity) (t' : Topology) : Prop where
  devices : t'.devices = t.devices ++ e.device?.toList
  modules : t'.modules = t.modules ++ e.hardware?.toList
  links : t'.links = t.links ++ e.link?.toList
  hosts : t'.hosts = t.hosts ++ e.host?.toList
  routers : t'.routers = t.routers ++ e.router?.toList

theorem gains_push (t : Topology) (e : Entity) : t.Gains e (t.push e) :=
  ⟨t.push_devices e, t.push_modules e, t.push_links e, t.push_hosts e, t.push_routers e⟩

/-- The topology that a list of entities makes, each of them appended in turn. -/
def ofEntities (es : List Entity) : Topology := es.foldl push empty

/-- Appending entities appends to each list those of its sort, in their order. -/
theorem foldl_push (es : List Entity) : ∀ t : Topology, es.foldl push t =
    { devices := t.devices ++ es.filterMap Entity.device?
      modules := t.modules ++ es.filterMap Entity.hardware?
      links := t.links ++ es.filterMap Entity.link?
      hosts := t.hosts ++ es.filterMap Entity.host?
      routers := t.routers ++ es.filterMap Entity.router? } := by
  induction es with
  | nil => intro t; simp
  | cons e es ih =>
      intro t
      rw [List.foldl_cons, ih]
      simp [List.filterMap_eq_flatMap_toList]

/-- Each list holds the entities of its sort, in their order. -/
theorem ofEntities_eq (es : List Entity) : ofEntities es =
    { devices := es.filterMap Entity.device?
      modules := es.filterMap Entity.hardware?
      links := es.filterMap Entity.link?
      hosts := es.filterMap Entity.host?
      routers := es.filterMap Entity.router? } := by
  simp [ofEntities, foldl_push, empty]

/-- **The entities of a topology make it again.** -/
theorem ofEntities_entities (t : Topology) : ofEntities t.entities = t := by
  have hother : ∀ {α β : Type} (l : List α), l.filterMap (fun _ => (none : Option β)) = [] :=
    fun _ => List.filterMap_eq_nil_iff.mpr fun _ _ => rfl
  simp [ofEntities_eq, entities, Function.comp_def, hother, Entity.device?, Entity.hardware?,
    Entity.link?, Entity.host?, Entity.router?]

end Topology

/-! ### Sections -/

/-- The lists of a topology, in the order in which documents are loaded. -/
inductive Section where
  | devices
  | modules
  | links
  | hosts
  | routers
deriving DecidableEq

namespace Section

/-- The name of the section in documents and diagnostics. -/
def name : Section → String
  | devices => "devices"
  | modules => "modules"
  | links => "links"
  | hosts => "pcConfigs"
  | routers => "iosConfigs"

/-- The number of the section. -/
def number : Section → Nat
  | devices => 0
  | modules => 1
  | links => 2
  | hosts => 3
  | routers => 4

/-- The sections in the order of their numbers. -/
def all : List Section := [devices, modules, links, hosts, routers]

theorem mem_all (s : Section) : s ∈ all := by cases s <;> decide

theorem all_ascending : all.Pairwise fun s s' => s.number < s'.number := by decide

/-- The section of an entity. -/
def ofEntity : Entity → Section
  | .device _ => devices
  | .hardware _ => modules
  | .link _ => links
  | .host _ => hosts
  | .router _ => routers

end Section

/-- The entities of a section. -/
def Topology.entitiesIn (t : Topology) : Section → List Entity
  | .devices => t.devices.map .device
  | .modules => t.modules.map .hardware
  | .links => t.links.map .link
  | .hosts => t.hosts.map .host
  | .routers => t.routers.map .router

/-- The entities of a topology are those of its sections. -/
theorem Topology.entities_eq (t : Topology) : t.entities = Section.all.flatMap t.entitiesIn := by
  simp [entities, entitiesIn, Section.all]

end NetDraft
