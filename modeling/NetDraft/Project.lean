/-
Project settings, as a project file states them.

Every setting may be left out, and a project without any file has the defaults of all of them.
-/
import NetDraft.Catalog.Wire

namespace NetDraft

/-- Settings for writing scripts. -/
structure ScriptSettings where
  /-- Whether only topologies without problems get a script. -/
  validate : Bool
deriving DecidableEq

/-- The settings of a project. -/
structure Project where
  name : String
  /-- The path of the catalog, if it is not the one that comes with the program. -/
  catalog : Option String
  rules : Rules
  scripts : ScriptSettings
deriving DecidableEq

namespace Project

/-- The name of a project that does not state one. -/
def defaultName : String := "topoforge"

/-- Scripts are validated if nothing else is stated. -/
def defaultScripts : ScriptSettings := ⟨true⟩

/-- The settings of a project that states none. -/
def default : Project := ⟨defaultName, none, .none, defaultScripts⟩

end Project

instance : Wire ScriptSettings where
  shape := .record "GenerateConfig" false (.defaulted "validate" .flag .nil)
  ofVal := fun (validate, ()) => ⟨Option.getD validate true⟩
  toVal s := (some s.validate, ())
  ofVal_toVal _ := rfl

/-- A part of the settings, or its default if it is left out. -/
def readPart {α : Type} [Wire α] (part : Option (Wire.shape α).Val) (default : α) : α :=
  (part.map Wire.ofVal).getD default

/-- What is written of a part of the settings is read back. -/
theorem readPart_toVal {α : Type} [Wire α] (part default : α) :
    readPart (some (Wire.toVal part)) default = part := by
  simp [readPart, Wire.ofVal_toVal]

instance : Wire Project where
  shape := .record "ProjectConfig" false
    (.defaulted "name" .text (.defaulted "catalog" (.optional .path)
      (.defaulted "validation" (Wire.shape Rules)
        (.defaulted "generate" (Wire.shape ScriptSettings) .nil))))
  ofVal := fun (name, catalog, rules, scripts, ()) =>
    ⟨Option.getD name Project.defaultName, Option.getD catalog none, readPart rules .none,
      readPart scripts Project.defaultScripts⟩
  toVal p := (some p.name, some p.catalog, some (Wire.toVal p.rules),
    some (Wire.toVal p.scripts), ())
  ofVal_toVal p := by
    simp only [readPart_toVal]
    rfl

/-- A file in which nothing is stated is as good as none. -/
theorem Project.ofVal_blank : (Wire.ofVal (none, none, none, none, ()) : Project) = .default := rfl

end NetDraft
