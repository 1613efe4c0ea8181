/-
How entities are given.

Every sort of entity has its tool, with the names of its fields in their order.  What has to be
given for a field depends on its value alone: texts are strings, slots are integers, positions are
numbers of any form, and what is optional may be null or left out if it is unset.  `ShownBy` says
this of a whole entity, for objects and for arrays at once, and reading arguments is shown to
accept just that.
-/
import Mathlib.Data.List.Forall2
import NetDraft.Entity.Wire
import NetDraft.Proofs.Shape.Record

namespace NetDraft

/-! ### Fields of entities -/

/-- The tools that append an entity, one for each sort. -/
inductive AppendTool where
  | device
  | hardware
  | link
  | host
  | router
deriving DecidableEq

namespace AppendTool

/-- The name of the tool in requests. -/
def name : AppendTool → String
  | device => "appendDevice"
  | hardware => "appendModule"
  | link => "appendLink"
  | host => "appendPcIpConfig"
  | router => "appendIosConfig"

/-- The names of the fields, in the order in which an array gives them. -/
def fieldNames : AppendTool → List String
  | device => ["name", "model", "x", "y"]
  | hardware => ["deviceName", "slot", "model"]
  | link => ["device1Name", "device1Interface", "device2Name", "device2Interface", "linkType"]
  | host => ["deviceName", "dhcpEnabled", "ipAddress", "subnetMask", "defaultGateway", "dnsServer"]
  | router => ["deviceName", "commands"]

end AppendTool

/-- The value of a field of an entity. -/
inductive FieldValue where
  | text (s : String)
  | slot (n : UInt32)
  | position (n : Coordinate)
  | optionalFlag (b : Option Bool)
  | optionalText (s : Option String)
deriving DecidableEq

/-- What has to be given for a field to have the value. -/
def FieldValue.Given : FieldValue → Option Json → Prop
  | text s, j => j = some (.string s)
  | slot n, j => ∃ h, j = some (.number (.integer n.toNat h))
  | position n, j => j = some (.number n)
  | optionalFlag (some b), j => j = some (.bool b)
  | optionalText (some s), j => j = some (.string s)
  | optionalFlag none, j => j = none ∨ j = some .null
  | optionalText none, j => j = none ∨ j = some .null

namespace Entity

/-- The tool that appends an entity. -/
def tool : Entity → AppendTool
  | .device _ => .device
  | .hardware _ => .hardware
  | .link _ => .link
  | .host _ => .host
  | .router _ => .router

/-- The values of the fields, in their order. -/
def values : Entity → List FieldValue
  | .device d => [.text d.name, .text d.model, .position d.x, .position d.y]
  | .hardware m => [.text m.device, .slot m.slot, .text m.model]
  | .link l => [.text l.first.device, .text l.first.interface, .text l.second.device,
      .text l.second.interface, .text l.cable]
  | .host h => [.text h.device, .optionalFlag h.dhcp, .optionalText h.address,
      .optionalText h.mask, .optionalText h.gateway, .optionalText h.dns]
  | .router r => [.text r.device, .text r.commands]

/-- The value gives every field of the entity what it has, and gives nothing else. -/
def ShownBy (e : Entity) (j : Json) : Prop :=
  ∃ given, j.Gives e.tool.fieldNames given ∧
    List.Forall₂ (fun name value => FieldValue.Given value (given.lookup name)) e.tool.fieldNames
      e.values

end Entity

/-! ### Reading one value -/

/-- A slot is read from the integer that it is. -/
theorem wordOf_eq_ok {n : Number} {w : UInt32} :
    wordOf n = .ok w ↔ ∃ h, n = .integer w.toNat h := by
  have hw := w.toNat_lt
  cases n with
  | float x => simp [wordOf]
  | integer i hi =>
      by_cases hrange : 0 ≤ i ∧ i < 0x100000000
      · have hread : wordOf (.integer i hi) = .ok (.ofNat i.toNat) := if_pos hrange
        rw [hread, Except.ok.injEq, ← UInt32.toNat_inj, UInt32.toNat_ofNat']
        simp only [Number.integer.injEq]
        constructor
        · intro h
          exact ⟨by omega, by omega⟩
        · rintro ⟨_, rfl⟩
          omega
      · have hread : wordOf (.integer i hi) = .error _ := if_neg hrange
        rw [hread]
        constructor
        · intro h
          cases h
        · rintro ⟨_, heq⟩
          rw [Number.integer.injEq] at heq
          omega

namespace Shape

variable {j : Json}

theorem ofJson_text_eq_ok {s : String} : Shape.text.ofJson j = .ok s ↔ j = .string s := by
  constructor
  · intro h
    cases j <;> cases h
    rfl
  · rintro rfl
    rfl

theorem ofJson_flag_eq_ok {b : Bool} : Shape.flag.ofJson j = .ok b ↔ j = .bool b := by
  constructor
  · intro h
    cases j <;> cases h
    rfl
  · rintro rfl
    rfl

theorem ofJson_number_eq_ok {n : Number} : Shape.number.ofJson j = .ok n ↔ j = .number n := by
  constructor
  · intro h
    cases j <;> cases h
    rfl
  · rintro rfl
    rfl

theorem ofJson_word_eq_ok {w : UInt32} :
    Shape.word.ofJson j = .ok w ↔ ∃ h, j = .number (.integer w.toNat h) := by
  cases j with
  | number n =>
      have hread : Shape.word.ofJson (.number n) = wordOf n := rfl
      refine (hread ▸ wordOf_eq_ok).trans ?_
      simp
  | null | bool | string | array | object =>
      constructor
      · intro h
        cases h
      · rintro ⟨_, heq⟩
        cases heq

/-- Null is none, and all else is read as the value. -/
theorem ofJson_optional_eq_ok {s : Shape} {value : Option s.Val} :
    s.optional.ofJson j = .ok value ↔
      (j = .null ∧ value = none) ∨ (j ≠ .null ∧ ∃ v, s.ofJson j = .ok v ∧ value = some v) := by
  cases j with
  | null =>
      constructor
      · intro h
        cases h
        exact Or.inl ⟨rfl, rfl⟩
      · rintro (⟨-, rfl⟩ | ⟨hnull, -⟩)
        · rfl
        · exact absurd rfl hnull
  | bool b | number n | string t | array items | object members =>
      refine Iff.trans Outcome.map_some_eq_ok ?_
      simp

/-- An optional field is unset by null and by being left out, and set by what shows its value. -/
theorem finds_optional {s : Shape} {shown : s.Val → Json}
    (hshown : ∀ j v, s.ofJson j = .ok v ↔ j = shown v) (hnull : ∀ v, shown v ≠ .null)
    {given : Option Json} {value : Option s.Val} :
    (∃ found, s.optional.Finds given found ∧ joinOptional found = value) ↔
      match value with
      | some v => given = some (shown v)
      | none => given = none ∨ given = some .null := by
  constructor
  · rintro ⟨found, hfinds, rfl⟩
    cases given with
    | none =>
        cases hfinds
        exact Or.inl rfl
    | some j =>
        obtain ⟨read, hread, rfl⟩ := hfinds
        rcases ofJson_optional_eq_ok.mp hread with ⟨rfl, rfl⟩ | ⟨-, v, hv, rfl⟩
        · exact Or.inr rfl
        · exact congrArg some ((hshown j v).mp hv)
  · intro h
    cases value with
    | some v =>
        subst h
        exact ⟨some (some v), ⟨some v, ofJson_optional_eq_ok.mpr
          (Or.inr ⟨hnull v, v, (hshown _ v).mpr rfl, rfl⟩), rfl⟩, rfl⟩
    | none =>
        rcases h with rfl | rfl
        · exact ⟨none, rfl, rfl⟩
        · exact ⟨some none, ⟨none, rfl, rfl⟩, rfl⟩

end Shape

/-! ### Reading one field -/

namespace FieldValue

variable {given : Option Json}

theorem given_text {s : String} :
    (text s).Given given ↔ Shape.text.Finds given (some s) := by
  cases given with
  | none => simp [Given, Shape.Finds]
  | some j => exact Option.some_inj.trans (Shape.finds_some.trans Shape.ofJson_text_eq_ok).symm

theorem given_position {n : Coordinate} :
    (position n).Given given ↔ Shape.number.Finds given (some n) := by
  cases given with
  | none => simp [Given, Shape.Finds]
  | some j => exact Option.some_inj.trans (Shape.finds_some.trans Shape.ofJson_number_eq_ok).symm

theorem given_slot {n : UInt32} :
    (slot n).Given given ↔ Shape.word.Finds given (some n) := by
  cases given with
  | none => simp [Given, Shape.Finds]
  | some j =>
      refine Iff.trans ?_ (Shape.finds_some.trans Shape.ofJson_word_eq_ok).symm
      simp [Given]

theorem given_optionalFlag {b : Option Bool} :
    (optionalFlag b).Given given ↔
      ∃ found, (Shape.optional .flag).Finds given found ∧ joinOptional found = b := by
  have hfinds :=
    @Shape.finds_optional .flag .bool (fun _ _ => Shape.ofJson_flag_eq_ok) nofun given b
  cases b <;> exact hfinds.symm

theorem given_optionalText {s : Option String} :
    (optionalText s).Given given ↔
      ∃ found, (Shape.optional .text).Finds given found ∧ joinOptional found = s := by
  have hfinds :=
    @Shape.finds_optional .text .string (fun _ _ => Shape.ofJson_text_eq_ok) nofun given s
  cases s <;> exact hfinds.symm

end FieldValue

/-! ### Reading entities -/

theorem Wire.ofJson_eq_ok {α : Type} [Wire α] {j : Json} {a : α} :
    Wire.ofJson j = .ok a ↔
      ∃ values, (Wire.shape α).ofJson j = .ok values ∧ Wire.ofVal values = a := by
  unfold Wire.ofJson
  cases (Wire.shape α).ofJson j <;> simp [Except.map]

section

open FieldValue

variable {j : Json}

theorem ofJson_device {d : Device} : Wire.ofJson j = .ok d ↔ (Entity.device d).ShownBy j := by
  have hread : ∀ values, (Wire.shape Device).ofJson j = .ok values ↔ _ := fun values =>
    Shape.ofJson_record_eq_ok (by decide) ⟨rfl, rfl, rfl, rfl, trivial⟩
  rw [Wire.ofJson_eq_ok]
  simp only [hread]
  constructor
  · rintro ⟨⟨name, model, x, y, ⟨⟩⟩, ⟨given, hgives, hname, hmodel, hx, hy, -⟩, rfl⟩
    exact ⟨given, hgives, .cons (given_text.mpr hname) (.cons (given_text.mpr hmodel)
      (.cons (given_position.mpr hx) (.cons (given_position.mpr hy) .nil)))⟩
  · rintro ⟨given, hgives, hshown⟩
    simp only [Entity.tool, Entity.values, AppendTool.fieldNames, List.forall₂_cons] at hshown
    obtain ⟨hname, hmodel, hx, hy, -⟩ := hshown
    exact ⟨(d.name, d.model, d.x, d.y, ()), ⟨given, hgives, given_text.mp hname,
      given_text.mp hmodel, given_position.mp hx, given_position.mp hy, trivial⟩, rfl⟩

theorem ofJson_module {m : Module} : Wire.ofJson j = .ok m ↔ (Entity.hardware m).ShownBy j := by
  have hread : ∀ values, (Wire.shape Module).ofJson j = .ok values ↔ _ := fun values =>
    Shape.ofJson_record_eq_ok (by decide) ⟨rfl, rfl, rfl, trivial⟩
  rw [Wire.ofJson_eq_ok]
  simp only [hread]
  constructor
  · rintro ⟨⟨device, slot, model, ⟨⟩⟩, ⟨given, hgives, hdevice, hslot, hmodel, -⟩, rfl⟩
    exact ⟨given, hgives, .cons (given_text.mpr hdevice) (.cons (given_slot.mpr hslot)
      (.cons (given_text.mpr hmodel) .nil))⟩
  · rintro ⟨given, hgives, hshown⟩
    simp only [Entity.tool, Entity.values, AppendTool.fieldNames, List.forall₂_cons] at hshown
    obtain ⟨hdevice, hslot, hmodel, -⟩ := hshown
    exact ⟨(m.device, m.slot, m.model, ()), ⟨given, hgives, given_text.mp hdevice,
      given_slot.mp hslot, given_text.mp hmodel, trivial⟩, rfl⟩

theorem ofJson_link {l : Link} : Wire.ofJson j = .ok l ↔ (Entity.link l).ShownBy j := by
  have hread : ∀ values, (Wire.shape Link).ofJson j = .ok values ↔ _ := fun values =>
    Shape.ofJson_record_eq_ok (by decide) ⟨rfl, rfl, rfl, rfl, rfl, trivial⟩
  rw [Wire.ofJson_eq_ok]
  simp only [hread]
  constructor
  · rintro ⟨⟨device1, interface1, device2, interface2, cable, ⟨⟩⟩, ⟨given, hgives, h1, h2, h3, h4,
      h5, -⟩, rfl⟩
    exact ⟨given, hgives, .cons (given_text.mpr h1) (.cons (given_text.mpr h2)
      (.cons (given_text.mpr h3) (.cons (given_text.mpr h4) (.cons (given_text.mpr h5) .nil))))⟩
  · rintro ⟨given, hgives, hshown⟩
    simp only [Entity.tool, Entity.values, AppendTool.fieldNames, List.forall₂_cons] at hshown
    obtain ⟨h1, h2, h3, h4, h5, -⟩ := hshown
    exact ⟨Wire.toVal l, ⟨given, hgives, given_text.mp h1, given_text.mp h2, given_text.mp h3,
      given_text.mp h4, given_text.mp h5, trivial⟩, rfl⟩

theorem ofJson_router {r : RouterCommands} :
    Wire.ofJson j = .ok r ↔ (Entity.router r).ShownBy j := by
  have hread : ∀ values, (Wire.shape RouterCommands).ofJson j = .ok values ↔ _ := fun values =>
    Shape.ofJson_record_eq_ok (by decide) ⟨rfl, rfl, trivial⟩
  rw [Wire.ofJson_eq_ok]
  simp only [hread]
  constructor
  · rintro ⟨⟨device, commands, ⟨⟩⟩, ⟨given, hgives, hdevice, hcommands, -⟩, rfl⟩
    exact ⟨given, hgives, .cons (given_text.mpr hdevice) (.cons (given_text.mpr hcommands) .nil)⟩
  · rintro ⟨given, hgives, hshown⟩
    simp only [Entity.tool, Entity.values, AppendTool.fieldNames, List.forall₂_cons] at hshown
    obtain ⟨hdevice, hcommands, -⟩ := hshown
    exact ⟨Wire.toVal r, ⟨given, hgives, given_text.mp hdevice, given_text.mp hcommands, trivial⟩,
      rfl⟩

theorem ofJson_host {h : HostAddressing} :
    Wire.ofJson j = .ok h ↔ (Entity.host h).ShownBy j := by
  have hread : ∀ values, (Wire.shape HostAddressing).ofJson j = .ok values ↔ _ := fun values =>
    Shape.ofJson_record_eq_ok (by decide) ⟨rfl, trivial⟩
  rw [Wire.ofJson_eq_ok]
  simp only [hread]
  constructor
  · rintro ⟨⟨device, dhcp, address, mask, gateway, dns, ⟨⟩⟩, ⟨given, hgives, hdevice, hdhcp,
      haddress, hmask, hgateway, hdns, -⟩, rfl⟩
    exact ⟨given, hgives, .cons (given_text.mpr hdevice)
      (.cons (given_optionalFlag.mpr ⟨_, hdhcp, rfl⟩)
        (.cons (given_optionalText.mpr ⟨_, haddress, rfl⟩)
          (.cons (given_optionalText.mpr ⟨_, hmask, rfl⟩)
            (.cons (given_optionalText.mpr ⟨_, hgateway, rfl⟩)
              (.cons (given_optionalText.mpr ⟨_, hdns, rfl⟩) .nil)))))⟩
  · obtain ⟨device, dhcp, address, mask, gateway, dns⟩ := h
    rintro ⟨given, hgives, hshown⟩
    simp only [Entity.tool, Entity.values, AppendTool.fieldNames, List.forall₂_cons] at hshown
    obtain ⟨hdevice, hdhcp, haddress, hmask, hgateway, hdns, -⟩ := hshown
    obtain ⟨_, hdhcp', rfl⟩ := given_optionalFlag.mp hdhcp
    obtain ⟨_, haddress', rfl⟩ := given_optionalText.mp haddress
    obtain ⟨_, hmask', rfl⟩ := given_optionalText.mp hmask
    obtain ⟨_, hgateway', rfl⟩ := given_optionalText.mp hgateway
    obtain ⟨_, hdns', rfl⟩ := given_optionalText.mp hdns
    exact ⟨(device, _, _, _, _, _, ()), ⟨given, hgives, given_text.mp hdevice, hdhcp', haddress',
      hmask', hgateway', hdns', trivial⟩, rfl⟩

end

/-! ### Forms that show the same -/

/-- What stands under a key does not depend on the order, if no key stands twice. -/
theorem lookup_eq_of_perm {members members' : List (String × Json)} (hperm : members.Perm members')
    (hnodup : (members.map Prod.fst).Nodup) (name : String) :
    members.lookup name = members'.lookup name := by
  induction hperm with
  | nil => rfl
  | cons m _ ih =>
      obtain ⟨key, value⟩ := m
      rw [List.map_cons, List.nodup_cons] at hnodup
      simp only [List.lookup_cons, ih hnodup.2]
  | swap m m' rest =>
      obtain ⟨key, value⟩ := m
      obtain ⟨key', value'⟩ := m'
      have hne : key' ≠ key := by
        intro heq
        simp [heq] at hnodup
      simp only [List.lookup_cons]
      by_cases hname : name = key
      · subst hname
        simp [beq_eq_false_iff_ne.mpr hne.symm]
      · simp [beq_eq_false_iff_ne.mpr hname]
  | trans h _ ih ih' =>
      exact (ih hnodup).trans (ih' ((h.map Prod.fst).nodup_iff.mp hnodup))

theorem map_fst_zip_eq_take {α β : Type} (names : List α) :
    ∀ items : List β, (names.zip items).map Prod.fst = names.take items.length := by
  induction names with
  | nil => simp
  | cons name names ih =>
      rintro (_ | ⟨item, items⟩)
      · rfl
      · simp [ih]

theorem AppendTool.fieldNames_nodup (tool : AppendTool) : tool.fieldNames.Nodup := by
  cases tool <;> decide

namespace Entity

variable {e : Entity}

/-- The members of an object may stand in any order. -/
theorem ShownBy.of_perm {members members' : List (String × Json)} (h : e.ShownBy (.object members))
    (hperm : members.Perm members') : e.ShownBy (.object members') := by
  obtain ⟨_, hgives, hshown⟩ := h
  cases hgives with
  | object _ hnodup hnames =>
      refine ⟨members', .object members' ((hperm.map Prod.fst).nodup_iff.mp hnodup)
        (fun m hm => hnames m (hperm.mem_iff.mpr hm)), ?_⟩
      simpa only [lookup_eq_of_perm hperm hnodup] using hshown

/-- An array shows what the object shows that has the items under the names of the fields. -/
theorem shownBy_array {items : List Json} (hlength : items.length ≤ e.tool.fieldNames.length) :
    e.ShownBy (.array items) ↔ e.ShownBy (.object (e.tool.fieldNames.zip items)) := by
  have hkeys := map_fst_zip_eq_take e.tool.fieldNames items
  constructor
  · rintro ⟨_, hgives, hshown⟩
    cases hgives with
    | array => exact ⟨_, .object _ (hkeys ▸ e.tool.fieldNames_nodup.take)
        (fun m hm => (List.of_mem_zip hm).1), hshown⟩
  · rintro ⟨_, hgives, hshown⟩
    cases hgives with
    | object => exact ⟨_, .array items hlength, hshown⟩

/-- An object and an array with the same values show the same entities. -/
theorem shownBy_object_iff_array {items : List Json} {members : List (String × Json)}
    (hlength : items.length ≤ e.tool.fieldNames.length)
    (hperm : members.Perm (e.tool.fieldNames.zip items)) :
    e.ShownBy (.object members) ↔ e.ShownBy (.array items) := by
  rw [shownBy_array hlength]
  exact ⟨fun h => h.of_perm hperm, fun h => h.of_perm hperm.symm⟩

end Entity

end NetDraft
