/-
The form of catalogs, listings and rules on the wire.
-/
import NetDraft.Catalog
import NetDraft.Validation
import NetDraft.Wire

namespace NetDraft

instance : Wire Kind where
  shape := .choice ["devices", "modules", "links"]
  ofVal := Kind.ofIndex
  toVal := Kind.index
  ofVal_toVal kind := by cases kind <;> rfl

instance : Wire Descriptor where
  shape := .record "Descriptor" false
    (.defaulted "category" (.optional .text) (.defaulted "description" (.optional .text) .nil))
  ofVal := fun (category, description, ()) => ⟨category.getD none, description.getD none⟩
  toVal d := (d.category.map some, d.description.map some, ())
  ofVal_toVal
    | ⟨category, description⟩ => by cases category <;> cases description <;> rfl

/-- The entries of a kind from their values, none if they are left out. -/
def readTable (values : Option (Dict (Wire.shape Descriptor).Val)) : Dict Descriptor :=
  (values.getD .empty).map Wire.ofVal

/-- The values of the entries of a kind. -/
def writeTable (table : Dict Descriptor) : Option (Dict (Wire.shape Descriptor).Val) :=
  some (table.map Wire.toVal)

/-- What is written of a table is read back. -/
theorem readTable_writeTable (table : Dict Descriptor) : readTable (writeTable table) = table := by
  obtain ⟨entries, _⟩ := table
  simp [readTable, writeTable, Dict.map, Function.comp_def, Wire.ofVal_toVal]

instance : Wire Catalog where
  shape := .record "Catalog" false
    (.defaulted "devices" (.dict (Wire.shape Descriptor))
      (.defaulted "modules" (.dict (Wire.shape Descriptor))
        (.defaulted "links" (.dict (Wire.shape Descriptor)) .nil)))
  ofVal := fun (devices, modules, links, ()) =>
    ⟨readTable devices, readTable modules, readTable links⟩
  toVal c := (writeTable c.devices, writeTable c.modules, writeTable c.links, ())
  ofVal_toVal c := by simp [readTable_writeTable]

instance : Wire Rules where
  shape := .record "ValidationRules" false
    (.defaulted "reject_duplicate_links" .flag (.defaulted "reject_slot_collisions" .flag
      (.defaulted "exclusive_dhcp_and_static" .flag .nil)))
  ofVal := fun (links, slots, dhcp, ()) =>
    ⟨Option.getD links false, Option.getD slots false, Option.getD dhcp false⟩
  toVal r := (some r.duplicateLinks, some r.slotCollisions, some r.dhcpAndStatic, ())
  ofVal_toVal _ := rfl

/-- The JSON value of a listing. -/
def Listing.toJson (l : Listing) : Json :=
  .object [("totalKnown", .ofNat l.totalKnown), ("entries", .array (l.entries.map .string))]

end NetDraft
