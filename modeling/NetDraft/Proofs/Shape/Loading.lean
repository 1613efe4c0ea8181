/-
Values are loaded from nodes that show what is written of them.

Each sort of value is found again in a node that shows its JSON value, and nothing is lost on the
way: plain scalars stand for numbers, flags and nothing, quoted ones for texts.  For records the
entries go by in the order of the fields, so each of them finds its slot still empty and leaves
those of the fields before it alone.  Tables and names out of several are left out, since no
document has any.
-/
import NetDraft.Proofs.Entity.Written
import NetDraft.Proofs.Yaml.Parsing

namespace NetDraft

open Yaml (Node Mark Path)

/-- All strings of a value are made of characters that mean the same in both languages. -/
def Json.HasCommonStrings (j : Json) : Prop := ∀ s ∈ j.strings, ∀ c ∈ s.toList, Yaml.IsCommon c

/-- The values of a shape are written in a form that YAML shares, and loaded from nodes that show
what is written of them. -/
structure Shape.LoadsBack (s : Shape) : Prop where
  shared : ∀ v, (s.toJson v).HasCommonStrings → (s.toJson v).Shared
  loads : ∀ (d : Yaml.Document) v n path, (s.toJson v).Shows n → s.ofNode d path n = .ok v

/-! ### Single values -/

namespace Shape

theorem loadsBack_text : Shape.text.LoadsBack where
  shared v h := .string v (h v List.mem_cons_self)
  loads := by
    rintro d v n path ⟨mark, rfl⟩
    rfl

theorem loadsBack_flag : Shape.flag.LoadsBack where
  shared v _ := .bool v
  loads := by
    rintro d v n path ⟨mark, rfl⟩
    cases v <;> rfl

theorem loadsBack_number : Shape.number.LoadsBack where
  shared v _ := .number v
  loads := by
    rintro d v n path ⟨mark, rfl⟩
    have hmeaning := Number.plainMeaning_text v
    show Node.placed _ path (Yaml.plainMeaning (Number.text v)).number = _
    rw [hmeaning]
    rfl

theorem word_text (w : UInt32) (mark : Mark) (path : Path) :
    (Node.scalar mark none .plain (Number.ofNat w.toNat).text).word path = .ok w := by
  have hw : w.toNat < 0x100000000 := w.toNat_lt
  have hread : ((Node.scalar mark none .plain (Number.ofNat w.toNat).text).wordText? "int"
      >>= fun s => Yaml.natural? (Nat.pow 2 64) s.toList) = some w.toNat :=
    Number.natural?_text (by omega)
  rw [Node.word, hread]
  dsimp only
  rw [if_pos hw, UInt32.ofNat_toNat]

theorem loadsBack_word : Shape.word.LoadsBack where
  shared v _ := .number _
  loads := by
    rintro d v n path ⟨mark, rfl⟩
    exact word_text v mark path

/-- A plain scalar that shows a value other than null is no word for nothing. -/
theorem isNothing_eq {j : Json} (hj : j ≠ .null) {n : Node} (h : j.Shows n) (path : Path) :
    n.isNothing path = .ok false := by
  cases j with
  | null => exact absurd rfl hj
  | bool b =>
      obtain ⟨mark, rfl⟩ := h
      cases b <;> rfl
  | string s =>
      obtain ⟨mark, rfl⟩ := h
      rfl
  | array items =>
      obtain ⟨mark, nodes, rfl, -⟩ := h
      rfl
  | object members =>
      obtain ⟨mark, entries, rfl, -⟩ := h
      rfl
  | number x =>
      obtain ⟨mark, rfl⟩ := h
      exact congrArg Except.ok x.not_isNullWord_text

/-- No node that shows a value is an alias. -/
theorem follow_eq {j : Json} {n : Node} (h : j.Shows n) (d : Yaml.Document) : d.follow n = n := by
  cases j with
  | array items =>
      obtain ⟨mark, nodes, rfl, -⟩ := h
      rfl
  | object members =>
      obtain ⟨mark, entries, rfl, -⟩ := h
      rfl
  | _ =>
      obtain ⟨mark, rfl⟩ := h
      rfl

/-- A value that is never written as null may be left out. -/
theorem loadsBack_optional {s : Shape} (hback : s.LoadsBack) (hnull : ∀ v, s.toJson v ≠ .null) :
    s.optional.LoadsBack where
  shared v h := by
    cases v with
    | none => exact .null
    | some v => exact hback.shared v h
  loads := by
    intro d v n path h
    have hfollow := follow_eq h d
    rw [ofNode]
    cases v with
    | none =>
        obtain ⟨mark, rfl⟩ := h
        rfl
    | some v =>
        have hnothing : (d.follow n).isNothing path = .ok false :=
          hfollow.symm ▸ isNothing_eq (hnull v) h path
        have hread : s.ofNode d path (d.follow n) = .ok v :=
          hfollow.symm ▸ hback.loads d v n path h
        rw [hnothing]
        show (s.ofNode d path (d.follow n) >>= fun v => pure (some v)) = _
        rw [hread]
        rfl

theorem mapM_ofNode {s : Shape} (hback : s.LoadsBack) (d : Yaml.Document) (path : Path)
    (items : List s.Val) : ∀ (nodes : List Node) (i : Nat),
      Json.ItemsShow (items.map s.toJson) nodes →
        (nodes.zipIdx i).mapM (fun (item, i) => s.ofNode d (.item path i) item) = .ok items := by
  induction items with
  | nil =>
      rintro nodes i rfl
      rfl
  | cons v items ih =>
      rintro _ i ⟨n, nodes, rfl, hshows, hshow⟩
      rw [List.zipIdx_cons, List.mapM_cons]
      dsimp only
      rw [hback.loads d v n _ hshows, ih nodes (i + 1) hshow]
      rfl

theorem loadsBack_list {s : Shape} (hback : s.LoadsBack) : s.list.LoadsBack where
  shared v h := by
    refine .array fun j hj => ?_
    obtain ⟨v, hv, rfl⟩ := List.mem_map.mp hj
    exact hback.shared v fun t ht => h t (Json.mem_itemStrings hj ht)
  loads := by
    rintro d v n path ⟨mark, nodes, rfl, hshow⟩
    exact mapM_ofNode hback d path v nodes 0 hshow

end Shape

/-! ### Records -/

/-- A fold beside a value that it leaves alone. -/
theorem Outcome.foldlM_beside {ε α σ τ : Type} {f : τ → α → Except ε τ}
    {g : σ × τ → α → Except ε (σ × τ)} {xs : List α} (slot : σ)
    (h : ∀ x ∈ xs, ∀ slots, g (slot, slots) x = (f slots x).map (slot, ·)) :
    ∀ slots, xs.foldlM g (slot, slots) = (xs.foldlM f slots).map (slot, ·) := by
  induction xs with
  | nil => exact fun _ => rfl
  | cons x xs ih =>
      intro slots
      rw [List.forall_mem_cons] at h
      rw [List.foldlM_cons, List.foldlM_cons, h.1]
      cases f slots x with
      | error fault => rfl
      | ok next => exact ih h.2 next

namespace Fields

/-- The values of all fields are loaded from nodes that show them. -/
def LoadBack : Fields → Prop
  | .nil => True
  | .required _ s rest => s.LoadsBack ∧ rest.LoadBack
  | .defaulted _ s rest => s.LoadsBack ∧ rest.LoadBack

/-- The slots that hold the values. -/
def filled : (fields : Fields) → fields.Val → fields.Slots
  | .nil, _ => ()
  | .required _ _ rest, (value, values) => (some value, rest.filled values)
  | .defaulted _ _ rest, (value, values) => (value, rest.filled values)

theorem finish_filled (fields : Fields) :
    ∀ values : fields.Val, fields.finish (fields.filled values) = .ok values := by
  induction fields using names.induct with
  | case1 => exact fun _ => rfl
  | case2 name s rest ih =>
      rintro ⟨value, values⟩
      show (rest.finish (rest.filled values) >>= fun values => pure (value, values)) = _
      rw [ih values]
      rfl
  | case3 name s rest ih =>
      rintro ⟨value, values⟩
      show (rest.finish (rest.filled values) >>= fun values => pure (value, values)) = _
      rw [ih values]
      rfl

theorem shared_toMembers {fields : Fields} (hback : fields.LoadBack) : ∀ values : fields.Val,
    (∀ m ∈ fields.toMembers values, m.2.HasCommonStrings) →
      ∀ m ∈ fields.toMembers values, m.2.Shared := by
  induction fields using names.induct with
  | case1 => exact fun _ _ m hm => absurd hm List.not_mem_nil
  | case2 name s rest ih =>
      rintro ⟨value, values⟩ h m hm
      rcases List.mem_cons.mp hm with rfl | hm
      · exact hback.1.shared value (h _ List.mem_cons_self)
      · exact ih hback.2 values (fun m hm => h m (List.mem_cons_of_mem _ hm)) m hm
  | case3 name s rest ih =>
      rintro ⟨value, values⟩ h m hm
      cases value with
      | none => exact ih hback.2 values h m hm
      | some v =>
          rcases List.mem_cons.mp hm with rfl | hm
          · exact hback.1.shared v (h _ List.mem_cons_self)
          · exact ih hback.2 values (fun m hm => h m (List.mem_cons_of_mem _ hm)) m hm

/-! ### Entries -/

section

variable (d : Yaml.Document) (allNames : List String) (path : Path) (mark : Mark)

/-- Reads the value of an entry into its slot. -/
def readEntry (fields : Fields) (slots : fields.Slots) (entry : Node × Node) :
    Except Yaml.Fault fields.Slots := do
  let key ← (d.follow entry.1).text "field identifier" path
  fields.putNode d allNames true path mark (d.follow entry.1).mark key (path.behind entry.1) entry.2
    slots

/-- The keys of the entries are those of the members. -/
theorem exists_key {members : List (String × Json)} : ∀ {entries : List (Node × Node)},
    Json.MembersShow members entries → ∀ e ∈ entries, ∃ m ∈ members, ∃ mark,
      e.1 = .scalar mark none .doubleQuoted m.1 := by
  induction members with
  | nil =>
      rintro entries rfl e he
      cases he
  | cons m members ih =>
      rintro _ ⟨mark, n, more, rfl, -, hshow⟩ e he
      rcases List.mem_cons.mp he with rfl | he
      · exact ⟨m, List.mem_cons_self, mark, rfl⟩
      · obtain ⟨m', hm', hkey⟩ := ih hshow e he
        exact ⟨m', List.mem_cons_of_mem _ hm', hkey⟩

variable {name : String} {s : Shape} {rest : Fields}

/-- An entry of another field leaves the slot of a field alone. -/
theorem readEntry_of_ne {e : Node × Node} {keyMark : Mark} {key : String}
    (he : e.1 = .scalar keyMark none .doubleQuoted key) (hne : name ≠ key) (slot : Option s.Val)
    (slots : rest.Slots) :
    (required name s rest).readEntry d allNames path mark (slot, slots) e
        = (rest.readEntry d allNames path mark slots e).map (slot, ·) ∧
      (defaulted name s rest).readEntry d allNames path mark (slot, slots) e
        = (rest.readEntry d allNames path mark slots e).map (slot, ·) := by
  obtain ⟨_, value⟩ := e
  obtain rfl := he
  have hkeep : ∀ x : Except Yaml.Fault rest.Slots, (do return (slot, ← x)) = x.map (slot, ·) := by
    intro x
    cases x <;> rfl
  exact ⟨(if_neg hne).trans (hkeep _), (if_neg hne).trans (hkeep _)⟩

/-- An entry of a field fills its slot, if that is empty. -/
theorem readEntry_self (hback : s.LoadsBack) {value : s.Val} {n : Node}
    (hshows : (s.toJson value).Shows n) (keyMark : Mark) (slots : rest.Slots) :
    (required name s rest).readEntry d allNames path mark (none, slots)
        (.scalar keyMark none .doubleQuoted name, n) = .ok (some value, slots) ∧
      (defaulted name s rest).readEntry d allNames path mark (none, slots)
        (.scalar keyMark none .doubleQuoted name, n) = .ok (some value, slots) := by
  have hread : (do return (some (← s.ofNode d (.field path name) n), slots))
      = (.ok (some value, slots) : Except Yaml.Fault (Option s.Val × rest.Slots)) := by
    rw [hback.loads d value n (.field path name) hshows]
    rfl
  exact ⟨(if_pos rfl).trans hread, (if_pos rfl).trans hread⟩

/-- The entries of the other fields leave the slot of a field alone. -/
theorem foldlM_others (hname : name ∉ rest.names) {values : rest.Val}
    {entries : List (Node × Node)} (hshow : Json.MembersShow (rest.toMembers values) entries)
    {slots : rest.Slots}
    (hfold : entries.foldlM (rest.readEntry d allNames path mark) rest.blank = .ok slots)
    (slot : Option s.Val) :
    entries.foldlM ((required name s rest).readEntry d allNames path mark) (slot, rest.blank)
        = .ok (slot, slots) ∧
      entries.foldlM ((defaulted name s rest).readEntry d allNames path mark) (slot, rest.blank)
        = .ok (slot, slots) := by
  have hkeys : ∀ e ∈ entries, ∃ keyMark key,
      e.1 = .scalar keyMark none .doubleQuoted key ∧ name ≠ key := by
    intro e he
    obtain ⟨m, hm, keyMark, hkey⟩ := exists_key hshow e he
    have hmem := (rest.keys_toMembers values).subset (List.mem_map_of_mem hm)
    exact ⟨keyMark, m.1, hkey, fun heq => hname (heq ▸ hmem)⟩
  have hpaired : (entries.foldlM (rest.readEntry d allNames path mark) rest.blank).map (slot, ·)
      = .ok (slot, slots) := by
    rw [hfold]
    rfl
  constructor
  · refine (Outcome.foldlM_beside slot (fun e he slots => ?_) _).trans hpaired
    obtain ⟨keyMark, key, hkey, hne⟩ := hkeys e he
    exact (readEntry_of_ne d allNames path mark hkey hne slot slots).1
  · refine (Outcome.foldlM_beside slot (fun e he slots => ?_) _).trans hpaired
    obtain ⟨keyMark, key, hkey, hne⟩ := hkeys e he
    exact (readEntry_of_ne d allNames path mark hkey hne slot slots).2

/-- Entries that show the values of the fields fill the slots of the fields with them. -/
theorem foldlM_readEntry {fields : Fields} (hnodup : fields.names.Nodup)
    (hback : fields.LoadBack) : ∀ (values : fields.Val) (entries : List (Node × Node)),
      Json.MembersShow (fields.toMembers values) entries →
        entries.foldlM (fields.readEntry d allNames path mark) fields.blank
          = .ok (fields.filled values) := by
  induction fields using names.induct with
  | case1 =>
      rintro values entries rfl
      rfl
  | case2 name s rest ih =>
      rintro ⟨value, values⟩ _ ⟨keyMark, n, entries, rfl, hshows, hshow⟩
      obtain ⟨hname, hrest⟩ := List.nodup_cons.mp hnodup
      have hothers := ih hrest hback.2 values entries hshow
      rw [List.foldlM_cons]
      refine (congrArg (· >>= _)
        (readEntry_self d allNames path mark hback.1 hshows keyMark rest.blank).1).trans ?_
      exact (foldlM_others d allNames path mark hname hshow hothers (some value)).1
  | case3 name s rest ih =>
      rintro ⟨value, values⟩ entries hshow
      obtain ⟨hname, hrest⟩ := List.nodup_cons.mp hnodup
      cases value with
      | none =>
          have hothers := ih hrest hback.2 values entries hshow
          exact (foldlM_others d allNames path mark hname hshow hothers none).2
      | some v =>
          obtain ⟨keyMark, n, entries, rfl, hshows, hshow⟩ := hshow
          have hothers := ih hrest hback.2 values entries hshow
          rw [List.foldlM_cons]
          refine (congrArg (· >>= _)
            (readEntry_self d allNames path mark hback.1 hshows keyMark rest.blank).2).trans ?_
          exact (foldlM_others d allNames path mark hname hshow hothers (some v)).2

end

end Fields

/-- **A record is loaded from a node that shows what is written of it.** -/
theorem Shape.loadsBack_record {name : String} {fields : Fields} (hnodup : fields.names.Nodup)
    (hkeys : ∀ key ∈ fields.names, Json.IsKey key) (hback : fields.LoadBack) :
    (Shape.record name true fields).LoadsBack where
  shared values h := by
    refine .object (fun m hm => ?_) (Fields.shared_toMembers hback values fun m hm t ht =>
      h t (Json.mem_memberStrings hm ht))
    exact hkeys m.1 ((fields.keys_toMembers values).subset (List.mem_map_of_mem hm))
  loads := by
    rintro d values n path ⟨mark, entries, rfl, hshow⟩
    have hfold := Fields.foldlM_readEntry d fields.names path mark hnodup hback values entries hshow
    show (entries.foldlM (fields.readEntry d fields.names path mark) fields.blank >>= fun slots =>
      (Node.mapping mark none entries).placed path (fields.finish slots)) = _
    rw [hfold]
    exact congrArg ((Node.mapping mark none entries).placed path) (fields.finish_filled values)

end NetDraft
