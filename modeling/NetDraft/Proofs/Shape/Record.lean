/-
What is read as a record.

A record is given by an object, which names its fields, or by an array, which has them in their
order.  Either way every field has been given at most one value, and reading the record is reading
each field from what was given for it; nothing else is looked at.  For objects that is what the
slots stand for while the members go by, and a member changes the one slot of its name.
-/
import NetDraft.Proofs.Outcome
import NetDraft.Shape.OfJson

namespace NetDraft

open Outcome

/-- What an object gives to the fields of a record by name, or an array by position. -/
inductive Json.Gives (names : List String) : Json → List (String × Json) → Prop
  | object (members : List (String × Json)) (hnodup : (members.map Prod.fst).Nodup)
      (hnames : ∀ m ∈ members, m.1 ∈ names) : Gives names (.object members) members
  | array (items : List Json) (hlength : items.length ≤ names.length) :
      Gives names (.array items) (names.zip items)

/-- What was given for a field is read as the value, and nothing as none. -/
def Shape.Finds (s : Shape) : Option Json → Option s.Val → Prop
  | none, value => value = none
  | some j, value => ∃ v, s.ofJson j = .ok v ∧ value = some v

theorem Shape.Finds.unique {s : Shape} {given : Option Json} {a b : Option s.Val}
    (ha : s.Finds given a) (hb : s.Finds given b) : a = b := by
  cases given with
  | none => rw [ha, hb]
  | some j =>
      obtain ⟨v, hv, rfl⟩ := ha
      obtain ⟨w, hw, rfl⟩ := hb
      rw [hv] at hw
      cases hw
      rfl

theorem Shape.finds_some {s : Shape} {j : Json} {value : s.Val} :
    s.Finds (some j) (some value) ↔ s.ofJson j = .ok value := by
  simp [Finds]

/-- What was given by name, and then something for one more name. -/
def giveAlso (given : String → Option Json) (key : String) (value : Json) : String → Option Json :=
  fun name => if name = key then some value else given name

theorem giveAlso_self {given : String → Option Json} {key : String} {value : Json} :
    giveAlso given key value key = some value := if_pos rfl

theorem giveAlso_of_ne {given : String → Option Json} {key name : String} {value : Json}
    (h : name ≠ key) : giveAlso given key value name = given name := if_neg h

/-- There is nothing for a name if it is another one and there was nothing before. -/
theorem giveAlso_eq_none {given : String → Option Json} {key name : String} {value : Json} :
    giveAlso given key value name = none ↔ name ≠ key ∧ given name = none := by
  by_cases hname : name = key
  · subst hname
    simp [giveAlso_self]
  · simp [giveAlso_of_ne hname, hname]

/-- What one member gives and then the others is what all of them give. -/
theorem giveAlso_or_lookup {given : String → Option Json} {key : String} {value : Json}
    {members : List (String × Json)} (h : given key = none) :
    (fun name => (giveAlso given key value name).or (members.lookup name))
      = fun name => (given name).or (((key, value) :: members).lookup name) := by
  funext name
  by_cases hname : name = key
  · subst hname
    simp [giveAlso_self, h]
  · have hne : (name == key) = false := by simpa using hname
    simp [giveAlso_of_ne hname, List.lookup_cons, hne]

/-! ### Fields and what was given for them -/

namespace Fields

/-- No required field has a value when it is left out. -/
def Strict : Fields → Prop
  | .nil => True
  | .required _ s rest => s.absent? = none ∧ rest.Strict
  | .defaulted _ _ rest => rest.Strict

/-- The values of the fields are what was given for their names. -/
def Decodes : (fields : Fields) → (given : String → Option Json) → fields.Val → Prop
  | .nil, _, _ => True
  | .required name s rest, given, (value, values) =>
    s.Finds (given name) (some value) ∧ rest.Decodes given values
  | .defaulted name s rest, given, (value, values) =>
    s.Finds (given name) value ∧ rest.Decodes given values

/-- The slots hold what was given so far. -/
def Holds : (fields : Fields) → (given : String → Option Json) → fields.Slots → Prop
  | .nil, _, _ => True
  | .required name s rest, given, (slot, slots) =>
    s.Finds (given name) slot ∧ rest.Holds given slots
  | .defaulted name s rest, given, (slot, slots) =>
    s.Finds (given name) slot ∧ rest.Holds given slots

/-- Only what is given for the names of the fields matters. -/
theorem decodes_congr {fields : Fields} {given given' : String → Option Json}
    (h : ∀ name ∈ fields.names, given name = given' name) :
    ∀ values : fields.Val, fields.Decodes given values ↔ fields.Decodes given' values := by
  induction fields using names.induct with
  | case1 => exact fun _ => Iff.rfl
  | case2 name s rest ih | case3 name s rest ih =>
      rintro ⟨value, values⟩
      have hname := h name List.mem_cons_self
      have hrest := ih (fun n hn => h n (List.mem_cons_of_mem _ hn)) values
      simp only [Decodes, hname, hrest]

/-- What the first field was given does not matter to the others. -/
theorem decodes_lookup_cons {fields : Fields} {key : String} {value : Json}
    {given : List (String × Json)} (h : key ∉ fields.names) (values : fields.Val) :
    fields.Decodes (fun name => ((key, value) :: given).lookup name) values ↔
      fields.Decodes (fun name => given.lookup name) values := by
  refine decodes_congr (fun name hname => ?_) values
  have hne : (name == key) = false := by
    rw [beq_eq_false_iff_ne]
    rintro rfl
    exact h hname
  simp [List.lookup_cons, hne]

theorem holds_congr {fields : Fields} {given given' : String → Option Json}
    (h : ∀ name ∈ fields.names, given name = given' name) :
    ∀ slots : fields.Slots, fields.Holds given slots ↔ fields.Holds given' slots := by
  induction fields using names.induct with
  | case1 => exact fun _ => Iff.rfl
  | case2 name s rest ih | case3 name s rest ih =>
      rintro ⟨slot, slots⟩
      have hname := h name List.mem_cons_self
      have hrest := ih (fun n hn => h n (List.mem_cons_of_mem _ hn)) slots
      simp only [Holds, hname, hrest]

theorem holds_blank (fields : Fields) : fields.Holds (fun _ => none) fields.blank := by
  induction fields using names.induct with
  | case1 => trivial
  | case2 name s rest ih | case3 name s rest ih => exact ⟨rfl, ih⟩

theorem Holds.unique {fields : Fields} {given : String → Option Json} :
    ∀ {a b : fields.Slots}, fields.Holds given a → fields.Holds given b → a = b := by
  induction fields using names.induct with
  | case1 => intro _ _ _ _; rfl
  | case2 name s rest ih | case3 name s rest ih =>
      rintro ⟨a, as⟩ ⟨b, bs⟩ ha hb
      rw [ha.1.unique hb.1, ih ha.2 hb.2]

/-- Slots that hold what was given hold part of it when some of them are emptied. -/
theorem Holds.restrict {fields : Fields} {given given' : String → Option Json}
    (h : ∀ name, given name = none ∨ given name = given' name) :
    ∀ {slots : fields.Slots}, fields.Holds given' slots → ∃ fewer, fields.Holds given fewer := by
  induction fields using names.induct with
  | case1 => exact fun _ => ⟨(), trivial⟩
  | case2 name s rest ih | case3 name s rest ih =>
      rintro ⟨slot, slots⟩ ⟨hslot, hslots⟩
      obtain ⟨fewer, hfewer⟩ := ih hslots
      rcases h name with hnone | hsame
      · exact ⟨(none, fewer), by rw [hnone]; rfl, hfewer⟩
      · exact ⟨(slot, fewer), by rw [hsame]; exact hslot, hfewer⟩

/-- Values that are what was given stand in slots that hold it. -/
theorem Decodes.holds {fields : Fields} {given : String → Option Json} :
    ∀ {values : fields.Val}, fields.Decodes given values → ∃ slots, fields.Holds given slots := by
  induction fields using names.induct with
  | case1 => exact fun _ => ⟨(), trivial⟩
  | case2 name s rest ih =>
      rintro ⟨value, values⟩ ⟨hvalue, hvalues⟩
      obtain ⟨slots, hslots⟩ := ih hvalues
      exact ⟨(some value, slots), hvalue, hslots⟩
  | case3 name s rest ih =>
      rintro ⟨value, values⟩ ⟨hvalue, hvalues⟩
      obtain ⟨slots, hslots⟩ := ih hvalues
      exact ⟨(value, slots), hvalue, hslots⟩

/-! ### Objects -/

/-- **A member fills the empty slot of its name.** -/
theorem putJson_eq_ok {fields : Fields} {given : String → Option Json} {allNames : List String}
    {key : String} {value : Json} (hnodup : fields.names.Nodup) :
    ∀ {slots slots' : fields.Slots}, fields.Holds given slots →
      (fields.putJson allNames true key value slots = .ok slots' ↔
        key ∈ fields.names ∧ given key = none ∧
          fields.Holds (giveAlso given key value) slots') := by
  induction fields using names.induct with
  | case1 =>
      intro slots slots' _
      simp [putJson, names]
  | case2 name s rest ih | case3 name s rest ih =>
      rintro ⟨slot, slots⟩ ⟨slot', slots'⟩ ⟨hslot, hslots⟩
      obtain ⟨hname, hrest⟩ := List.nodup_cons.mp hnodup
      by_cases hkey : name = key
      · subst hkey
        -- The fields behind it are given nothing new.
        have hothers : ∀ n ∈ rest.names, giveAlso given name value n = given n :=
          fun n hn => giveAlso_of_ne fun heq => hname (heq ▸ hn)
        have hrests : rest.Holds (giveAlso given name value) slots' ↔ slots' = slots := by
          rw [holds_congr hothers]
          exact ⟨fun h => h.unique hslots, fun h => h ▸ hslots⟩
        simp only [putJson, Holds, hrests, giveAlso_self, names, List.mem_cons_self, true_and]
        cases hgiven : given name with
        | none =>
            rw [hgiven] at hslot
            subst hslot
            rw [eq_self, true_and]
            exact fill_eq_ok
        | some j =>
            rw [hgiven] at hslot
            obtain ⟨v, _, rfl⟩ := hslot
            simp
      · have hslots' : s.Finds (given name) slot' ↔ slot' = slot :=
          ⟨fun h => h.unique hslot, fun h => h ▸ hslot⟩
        simp only [putJson, Holds, giveAlso_of_ne hkey, hslots', names, List.mem_cons,
          Ne.symm hkey, hkey, false_or]
        refine keep_eq_ok.trans ?_
        rw [ih hrest hslots]
        constructor
        · rintro ⟨h, hmem, hnone, hheld⟩
          exact ⟨hmem, hnone, h, hheld⟩
        · rintro ⟨hmem, hnone, h, hheld⟩
          exact ⟨h, hmem, hnone, hheld⟩

/-- Members that are all fields, none of them twice, fill the slots with what they give. -/
theorem foldlM_putJson_eq_ok {fields : Fields} {allNames : List String}
    (hnodup : fields.names.Nodup) (members : List (String × Json)) :
    ∀ {given : String → Option Json} {slots slots' : fields.Slots}, fields.Holds given slots →
      (members.foldlM (fun slots (key, value) =>
          fields.putJson allNames true key value slots) slots = .ok slots' ↔
        ((members.map Prod.fst).Nodup ∧ ∀ m ∈ members, m.1 ∈ fields.names ∧ given m.1 = none) ∧
          fields.Holds (fun name => (given name).or (members.lookup name)) slots') := by
  induction members with
  | nil =>
      intro given slots slots' hslots
      simp only [List.foldlM_nil, List.lookup_nil, Option.or_none]
      constructor
      · intro h
        cases h
        simpa using hslots
      · rintro ⟨-, h⟩
        rw [hslots.unique h]
        rfl
  | cons m members ih =>
      obtain ⟨key, value⟩ := m
      intro given slots slots' hslots
      rw [List.foldlM_cons]
      dsimp only
      rw [bind_eq_ok]
      constructor
      · rintro ⟨next, hput, h⟩
        obtain ⟨hkey, hnone, hnext⟩ := (putJson_eq_ok hnodup hslots).mp hput
        obtain ⟨⟨hkeys, hmembers⟩, hheld⟩ := (ih hnext).mp h
        rw [giveAlso_or_lookup hnone] at hheld
        simp only [giveAlso_eq_none] at hmembers
        refine ⟨⟨?_, ?_⟩, hheld⟩
        · rw [List.map_cons, List.nodup_cons]
          refine ⟨?_, hkeys⟩
          intro hmem
          obtain ⟨m, hm, heq⟩ := List.mem_map.mp hmem
          exact (hmembers m hm).2.1 heq
        · intro m hm
          rcases List.mem_cons.mp hm with rfl | hm
          · exact ⟨hkey, hnone⟩
          · exact ⟨(hmembers m hm).1, (hmembers m hm).2.2⟩
      · rintro ⟨⟨hkeys, hmembers⟩, hheld⟩
        rw [List.map_cons, List.nodup_cons] at hkeys
        obtain ⟨hkey, hnone⟩ := hmembers _ List.mem_cons_self
        rw [← giveAlso_or_lookup hnone] at hheld
        -- The slots at the end tell those behind this member.
        obtain ⟨next, hnext⟩ : ∃ next, fields.Holds (giveAlso given key value) next := by
          refine Holds.restrict (fun name => ?_) hheld
          cases giveAlso given key value name <;> simp
        refine ⟨next, (putJson_eq_ok hnodup hslots).mpr ⟨hkey, hnone, hnext⟩,
          (ih hnext).mpr ⟨⟨hkeys.2, ?_⟩, hheld⟩⟩
        intro m hm
        obtain ⟨hmem, hmnone⟩ := hmembers m (List.mem_cons_of_mem _ hm)
        rw [giveAlso_eq_none]
        refine ⟨hmem, ?_, hmnone⟩
        rintro rfl
        exact hkeys.1 (List.mem_map.mpr ⟨m, hm, rfl⟩)

/-- The record of the slots has the values that were given. -/
theorem finish_eq_ok {fields : Fields} {given : String → Option Json} (hstrict : fields.Strict) :
    ∀ {slots : fields.Slots} {values : fields.Val}, fields.Holds given slots →
      (fields.finish slots = .ok values ↔ fields.Decodes given values) := by
  induction fields using names.induct with
  | case1 => exact fun _ => ⟨fun _ => trivial, fun _ => rfl⟩
  | case2 name s rest ih =>
      rintro ⟨slot, slots⟩ ⟨value, values⟩ ⟨hslot, hslots⟩
      obtain ⟨habsent, hrest⟩ := hstrict
      cases hgiven : given name with
      | none =>
          rw [hgiven] at hslot
          subst hslot
          simp [finish, Decodes, habsent, hgiven, Shape.Finds]
      | some j =>
          rw [hgiven] at hslot
          obtain ⟨v, hv, rfl⟩ := hslot
          have hvalue : s.Finds (some j) (some value) ↔ value = v := by
            simp [Shape.Finds, hv]
          simp only [finish, Decodes, hgiven, hvalue, ← ih hrest hslots]
          exact keep_eq_ok
  | case3 name s rest ih =>
      rintro ⟨slot, slots⟩ ⟨value, values⟩ ⟨hslot, hslots⟩
      simp only [finish, Decodes, ← ih hstrict hslots]
      have hvalue : s.Finds (given name) value ↔ value = slot :=
          ⟨fun h => h.unique hslot, fun h => h ▸ hslot⟩
      rw [hvalue]
      exact keep_eq_ok

/-! ### Arrays -/

/-- **The items of an array are read as the fields in their order.** -/
theorem ofItems_eq_ok {fields : Fields} {expected : String} (hnodup : fields.names.Nodup) :
    ∀ {i : Nat} {items : List Json} {values : fields.Val},
      fields.ofItems expected i items = .ok values ↔
        fields.Decodes (fun name => (fields.names.zip items).lookup name) values := by
  induction fields using names.induct with
  | case1 => exact ⟨fun _ => trivial, fun _ => rfl⟩
  | case2 name s rest ih =>
      rintro i items ⟨value, values⟩
      obtain ⟨hname, hrest⟩ := List.nodup_cons.mp hnodup
      cases items with
      | nil => simp [ofItems, Decodes, Shape.Finds]
      | cons item items =>
          simp only [ofItems, Decodes, names, List.zip_cons_cons, List.lookup_cons_self,
            decodes_lookup_cons hname, Shape.finds_some]
          exact pair_eq_ok.trans (and_congr_right fun _ => ih hrest)
  | case3 name s rest ih =>
      rintro i items ⟨value, values⟩
      obtain ⟨hname, hrest⟩ := List.nodup_cons.mp hnodup
      cases items with
      | nil =>
          have hnothing : rest.ofItems expected (i + 1) [] = .ok values ↔ _ := ih hrest
          rw [List.zip_nil_right] at hnothing
          simp only [ofItems, Decodes, List.zip_nil_right, List.lookup_nil]
          exact keep_eq_ok.trans (and_congr_right fun _ => hnothing)
      | cons item items =>
          simp only [ofItems, Decodes, names, List.zip_cons_cons, List.lookup_cons_self,
            decodes_lookup_cons hname]
          exact fillPair_eq_ok.trans (and_congr_right fun _ => ih hrest)

end Fields

/-! ### Both forms -/

theorem Shape.ofJson_object_eq_ok {name : String} {fields : Fields}
    {members : List (String × Json)} {values : fields.Val} :
    (Shape.record name true fields).ofJson (.object members) = .ok values ↔
      ∃ slots, members.foldlM (fun slots (key, value) =>
          fields.putJson fields.names true key value slots) fields.blank = .ok slots ∧
        fields.finish slots = .ok values := bind_eq_ok

theorem Shape.ofJson_array_eq_ok {name : String} {fields : Fields} {items : List Json}
    {values : fields.Val} :
    (Shape.record name true fields).ofJson (.array items) = .ok values ↔
      items.length ≤ fields.names.length ∧
        fields.ofItems (recordExpectation name fields) 0 items = .ok values := by
  rw [← Nat.not_lt]
  exact unless_eq_ok

/-- **A record is read from what its fields were given, and from nothing else.** -/
theorem Shape.ofJson_record_eq_ok {name : String} {fields : Fields} {j : Json}
    {values : fields.Val} (hnodup : fields.names.Nodup) (hstrict : fields.Strict) :
    (Shape.record name true fields).ofJson j = .ok values ↔
      ∃ given, j.Gives fields.names given ∧
        fields.Decodes (fun name => given.lookup name) values := by
  cases j with
  | object members =>
      have hfold : ∀ slots, members.foldlM (fun slots (key, value) =>
          fields.putJson fields.names true key value slots) fields.blank = .ok slots ↔ _ :=
        fun _ => Fields.foldlM_putJson_eq_ok hnodup members fields.holds_blank
      simp only [Option.none_or, and_true] at hfold
      rw [ofJson_object_eq_ok]
      constructor
      · rintro ⟨slots, hslots, hfinish⟩
        obtain ⟨⟨hkeys, hnames⟩, hheld⟩ := (hfold slots).mp hslots
        exact ⟨members, .object members hkeys hnames,
          (Fields.finish_eq_ok hstrict hheld).mp hfinish⟩
      · rintro ⟨given, hgives, hdecodes⟩
        cases hgives with
        | object _ hkeys hnames =>
            obtain ⟨slots, hheld⟩ := hdecodes.holds
            exact ⟨slots, (hfold slots).mpr ⟨⟨hkeys, hnames⟩, hheld⟩,
              (Fields.finish_eq_ok hstrict hheld).mpr hdecodes⟩
  | array items =>
      rw [ofJson_array_eq_ok, Fields.ofItems_eq_ok hnodup]
      constructor
      · rintro ⟨hlength, hdecodes⟩
        exact ⟨_, .array items hlength, hdecodes⟩
      · rintro ⟨given, hgives, hdecodes⟩
        cases hgives with
        | array _ hlength => exact ⟨hlength, hdecodes⟩
  | null | bool | number | string =>
      constructor
      · intro h
        cases h
      · rintro ⟨_, hgives, -⟩
        cases hgives

end NetDraft
