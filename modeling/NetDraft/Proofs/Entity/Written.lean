/-
Entities are shown by what is written of them.

What is written of a record has a member for each of its fields, those apart that are left out, and
from their names the values are found again.  This needs of the fields only that each value is read
back, so it is proved once for all records; of the entities nothing is left but to look through
their fields.
-/
import NetDraft.Proofs.Entity.Given

namespace NetDraft

/-! ### Records -/

/-- The values of a shape are read back from what is written of them. -/
def Shape.ReadsBack (s : Shape) : Prop := ∀ v, s.ofJson (s.toJson v) = .ok v

namespace Fields

/-- The values of all fields are read back. -/
def ReadBack : Fields → Prop
  | .nil => True
  | .required _ s rest => s.ReadsBack ∧ rest.ReadBack
  | .defaulted _ s rest => s.ReadsBack ∧ rest.ReadBack

/-- Members are written in the order of the fields, and some fields are left out. -/
theorem keys_toMembers (fields : Fields) :
    ∀ values : fields.Val, ((fields.toMembers values).map Prod.fst).Sublist fields.names := by
  induction fields using names.induct with
  | case1 => exact fun _ => .slnil
  | case2 name s rest ih =>
      rintro ⟨value, values⟩
      exact (ih values).cons_cons name
  | case3 name s rest ih =>
      rintro ⟨value, values⟩
      cases value with
      | none => exact (ih values).cons name
      | some v => exact (ih values).cons_cons name

/-- What is written of a record gives the fields their values. -/
theorem decodes_toMembers {fields : Fields} (hnodup : fields.names.Nodup)
    (hback : fields.ReadBack) : ∀ values : fields.Val,
    fields.Decodes (fun name => (fields.toMembers values).lookup name) values := by
  induction fields using names.induct with
  | case1 => exact fun _ => trivial
  | case2 name s rest ih =>
      rintro ⟨value, values⟩
      obtain ⟨hname, hrest⟩ := List.nodup_cons.mp hnodup
      have hothers := ih hrest hback.2 values
      refine ⟨?_, (decodes_lookup_cons hname values).mpr hothers⟩
      show s.Finds ((_ :: _ : List (String × Json)).lookup name) _
      rw [List.lookup_cons_self]
      exact Shape.finds_some.mpr (hback.1 value)
  | case3 name s rest ih =>
      rintro ⟨value, values⟩
      obtain ⟨hname, hrest⟩ := List.nodup_cons.mp hnodup
      have hothers := ih hrest hback.2 values
      cases value with
      | none =>
          have hnothing : (rest.toMembers values).lookup name = none := by
            rw [List.lookup_eq_none_iff]
            intro m hm
            have hmem := (rest.keys_toMembers values).subset (List.mem_map_of_mem hm)
            rw [bne_iff_ne]
            rintro rfl
            exact hname hmem
          refine ⟨?_, hothers⟩
          show s.Finds ((rest.toMembers values).lookup name) none
          rw [hnothing]
          rfl
      | some v =>
          refine ⟨?_, (decodes_lookup_cons hname values).mpr hothers⟩
          show s.Finds ((_ :: _ : List (String × Json)).lookup name) _
          rw [List.lookup_cons_self]
          exact Shape.finds_some.mpr (hback.1 v)

end Fields

/-- **A record is read back.** -/
theorem Shape.readsBack_record {name : String} {fields : Fields} (hnodup : fields.names.Nodup)
    (hstrict : fields.Strict) (hback : fields.ReadBack) :
    (Shape.record name true fields).ReadsBack := by
  intro values
  have hkeys := fields.keys_toMembers values
  exact (ofJson_record_eq_ok hnodup hstrict).mpr ⟨fields.toMembers values,
    .object _ (hkeys.nodup hnodup) (fun m hm => hkeys.subset (List.mem_map_of_mem hm)),
    fields.decodes_toMembers hnodup hback values⟩

/-! ### Single values -/

theorem Shape.readsBack_word : Shape.word.ReadsBack := by
  intro w
  have hw := UInt32.toNat_lt w
  have hmin : min (UInt32.toNat w) 0xffffffffffffffff = UInt32.toNat w := by omega
  refine ofJson_word_eq_ok.mpr ⟨by omega, ?_⟩
  show Json.number (.ofNat (UInt32.toNat w)) = _
  simp [Number.ofNat, hmin]

/-- Nothing is written as null, so that no value may be. -/
theorem Shape.readsBack_optional {s : Shape} (hback : s.ReadsBack)
    (hnull : ∀ v, s.toJson v ≠ .null) : s.optional.ReadsBack := by
  intro value
  cases value with
  | none => rfl
  | some v => exact ofJson_optional_eq_ok.mpr (Or.inr ⟨hnull v, v, hback v, rfl⟩)

/-! ### Entities -/

theorem Wire.ofJson_toJson {α : Type} [Wire α] (hback : (Wire.shape α).ReadsBack) (a : α) :
    Wire.ofJson (Wire.toJson a) = .ok a :=
  Wire.ofJson_eq_ok.mpr ⟨_, hback (Wire.toVal a), Wire.ofVal_toVal a⟩

namespace Entity

/-- The JSON value of an entity. -/
def toJson : Entity → Json
  | .device d => Wire.toJson d
  | .hardware m => Wire.toJson m
  | .link l => Wire.toJson l
  | .host h => Wire.toJson h
  | .router r => Wire.toJson r

/-- **What is written of an entity shows it.** -/
theorem shownBy_toJson (e : Entity) : e.ShownBy e.toJson := by
  have htext : Shape.text.ReadsBack := fun _ => rfl
  have hnumber : Shape.number.ReadsBack := fun _ => rfl
  have hflag? : (Shape.optional .flag).ReadsBack := Shape.readsBack_optional (fun _ => rfl) nofun
  have htext? : (Shape.optional .text).ReadsBack := Shape.readsBack_optional htext nofun
  cases e with
  | device d =>
      refine ofJson_device.mp (Wire.ofJson_toJson ?_ d)
      exact Shape.readsBack_record (by decide) ⟨rfl, rfl, rfl, rfl, trivial⟩
        ⟨htext, htext, hnumber, hnumber, trivial⟩
  | hardware m =>
      refine ofJson_module.mp (Wire.ofJson_toJson ?_ m)
      exact Shape.readsBack_record (by decide) ⟨rfl, rfl, rfl, trivial⟩
        ⟨htext, Shape.readsBack_word, htext, trivial⟩
  | link l =>
      refine ofJson_link.mp (Wire.ofJson_toJson ?_ l)
      exact Shape.readsBack_record (by decide) ⟨rfl, rfl, rfl, rfl, rfl, trivial⟩
        ⟨htext, htext, htext, htext, htext, trivial⟩
  | host h =>
      refine ofJson_host.mp (Wire.ofJson_toJson ?_ h)
      exact Shape.readsBack_record (by decide) ⟨rfl, trivial⟩
        ⟨htext, hflag?, htext?, htext?, htext?, htext?, trivial⟩
  | router r =>
      refine ofJson_router.mp (Wire.ofJson_toJson ?_ r)
      exact Shape.readsBack_record (by decide) ⟨rfl, rfl, trivial⟩ ⟨htext, htext, trivial⟩

end Entity

end NetDraft
