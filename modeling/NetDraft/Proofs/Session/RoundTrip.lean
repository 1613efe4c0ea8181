/-
An entity that is written into a request line is appended.

The arguments of a line are read in ascending order of their keys, whichever order they were
written in, and all of them are kept, since an entity has no field twice.  So the value that is
read shows the entity as the value that was written does, and the request appends it.
-/
import Mathlib.Data.List.Permutation
import NetDraft.Proofs.Entity.Written
import NetDraft.Proofs.Json.ReadBack
import NetDraft.Proofs.Session.Arguments

namespace NetDraft

/-! ### What entities are shown by -/

/-- Nothing that is given for a field has members or items, and it is a float only for a position
that is one. -/
theorem FieldValue.Given.cases {value : FieldValue} {j : Json} (h : value.Given (some j)) :
    j = .null ∨ (∃ b, j = .bool b) ∨ (∃ s, j = .string s) ∨ (∃ i hi, j = .number (.integer i hi)) ∨
      ∃ n, value = .position n ∧ j = .number n := by
  cases value with
  | text s => exact Or.inr (Or.inr (Or.inl ⟨s, Option.some.inj h⟩))
  | position n => exact Or.inr (Or.inr (Or.inr (Or.inr ⟨n, rfl, Option.some.inj h⟩)))
  | slot n =>
      obtain ⟨hn, h⟩ := h
      exact Or.inr (Or.inr (Or.inr (Or.inl ⟨_, hn, Option.some.inj h⟩)))
  | optionalFlag b =>
      cases b with
      | none => exact Or.inl (by simpa [Given] using h)
      | some b => exact Or.inr (Or.inl ⟨b, Option.some.inj h⟩)
  | optionalText s =>
      cases s with
      | none => exact Or.inl (by simpa [Given] using h)
      | some s => exact Or.inr (Or.inr (Or.inl ⟨s, Option.some.inj h⟩))

/-- What is given for a field is read back as it is. -/
theorem FieldValue.Given.asRead {value : FieldValue} {j : Json} (h : value.Given (some j)) :
    j.asRead = j := by
  rcases h.cases with rfl | ⟨b, rfl⟩ | ⟨s, rfl⟩ | ⟨i, hi, rfl⟩ | ⟨n, -, rfl⟩ <;> rfl

namespace Entity

/-- All positions of the entity are integers. -/
def Whole (e : Entity) : Prop := ∀ n, FieldValue.position n ∈ e.values → ∃ i hi, n = .integer i hi

variable {e : Entity} {members : List (String × Json)}

theorem ShownBy.nodup_keys (h : e.ShownBy (.object members)) : (members.map Prod.fst).Nodup := by
  obtain ⟨_, hgives, -⟩ := h
  cases hgives with
  | object _ hnodup => exact hnodup

/-- Every member of an object that shows an entity is given for one of its values. -/
theorem ShownBy.given_of_mem (h : e.ShownBy (.object members)) {m : String × Json}
    (hm : m ∈ members) : ∃ value ∈ e.values, value.Given (some m.2) := by
  obtain ⟨_, hgives, hshown⟩ := h
  cases hgives with
  | object _ hnodup hnames =>
      have hlookup : members.lookup m.1 = some m.2 := by
        obtain ⟨before, after, rfl⟩ := List.append_of_mem hm
        rw [List.map_append, List.nodup_append] at hnodup
        refine List.lookup_eq_some_iff.mpr ⟨before, after, rfl, fun p hp => ?_⟩
        rw [bne_iff_ne]
        exact fun heq => hnodup.2.2 p.1 (List.mem_map_of_mem hp) m.1 (by simp) heq.symm
      obtain ⟨i, hi, hname⟩ := List.getElem_of_mem (hnames m hm)
      have hlength := hshown.length_eq
      have hgiven := hshown.get hi (hlength ▸ hi)
      simp only [List.get_eq_getElem, hname, hlookup] at hgiven
      exact ⟨_, List.getElem_mem _, hgiven⟩

theorem ShownBy.readable (h : e.ShownBy (.object members)) (hwhole : e.Whole) (depth : Nat) :
    (Json.object members).Readable (depth + 1) := by
  refine .object fun m hm => ?_
  obtain ⟨key, j⟩ := m
  obtain ⟨value, hvalue, hgiven⟩ := h.given_of_mem hm
  rcases hgiven.cases with rfl | ⟨b, rfl⟩ | ⟨s, rfl⟩ | ⟨i, hi, rfl⟩ | ⟨n, rfl, rfl⟩
  · exact .null depth
  · exact .bool depth b
  · exact .string depth s
  · exact .integer depth i hi
  · obtain ⟨i, hi, rfl⟩ := hwhole n hvalue
    exact .integer depth i hi

/-- An object that shows an entity still does when it is read back. -/
theorem ShownBy.asRead (h : e.ShownBy (.object members)) :
    e.ShownBy (Json.object members).asRead := by
  have hvalues : ∀ m ∈ members, m.2.asRead = m.2 := by
    intro m hm
    obtain ⟨value, -, hgiven⟩ := h.given_of_mem hm
    exact hgiven.asRead
  exact h.of_perm (Json.perm_membersAsRead hvalues [] h.nodup_keys).symm

theorem toJson_eq_object (e : Entity) : ∃ members, e.toJson = .object members := by
  cases e <;> exact ⟨_, rfl⟩

end Entity

/-! ### Request lines -/

namespace Request

variable {tool : String} {args found : Json} {parts : List (String × Json)}

theorem readMember_tool (args : Option Json) (rest : List Char) :
    readMember "tool" ⟨none, args⟩ (':' :: ((Json.string tool).chars ++ rest))
      = .ok (⟨some tool, args⟩, rest) := by
  have hquoted : (Json.string tool).chars ++ rest
      = '"' :: (Text.escape tool.toList ++ '"' :: rest) := by
    simp [Json.chars, Text.quotedChars]
  rw [hquoted]
  show (Json.readString (Text.escape tool.toList ++ '"' :: rest) >>= fun found =>
    .ok ((⟨some found.1, args⟩ : Partial), found.2)) = _
  rw [Json.readString_escape]
  rfl

theorem readMember_args {rest : List Char}
    (hargs : Json.readValue argsDepth (args.chars ++ rest) = .ok (found, rest))
    (tool : Option String) : readMember "args" ⟨tool, none⟩ (':' :: (args.chars ++ rest))
      = .ok (⟨tool, some found⟩, rest) := by
  show (Json.readValue argsDepth (args.chars ++ rest) >>= fun found =>
    .ok ((⟨tool, some found.1⟩ : Partial), found.2)) = _
  rw [hargs]
  rfl

/-- The two members of a request are found in either order. -/
theorem gathers_readMember (hargs : ∀ rest, Text.Ends Json.continuesNumeral rest →
      Json.readValue argsDepth (args.chars ++ rest) = .ok (found, rest))
    (hparts : parts.Perm [("tool", .string tool), ("args", args)]) :
    Json.Gathers readMember ⟨none, none⟩ parts ⟨some tool, some found⟩ := by
  rcases List.perm_pair.mp hparts with rfl | rfl
  · exact .cons (fun rest _ => readMember_tool none rest)
      (.cons (fun rest hrest => readMember_args (hargs rest hrest) (some tool)) (.nil _))
  · exact .cons (fun rest hrest => readMember_args (hargs rest hrest) none)
      (.cons (fun rest _ => readMember_tool (some found) rest) (.nil _))

/-- **A request is read from its line**, with what is read for its arguments. -/
theorem ofLine_compact (hargs : ∀ rest, Text.Ends Json.continuesNumeral rest →
      Json.readValue argsDepth (args.chars ++ rest) = .ok (found, rest))
    (hparts : parts.Perm [("tool", .string tool), ("args", args)]) :
    ofLine (Json.object parts).compact = .ok ⟨tool, found⟩ := by
  have hread : read (Json.object parts).chars = .ok (⟨tool, found⟩, []) := by
    show (Json.readMembers readMember ⟨none, none⟩
      (Text.joined [','] (Json.memberChars parts) ++ ['\x7d']) >>= _) = _
    rw [(gathers_readMember hargs hparts).readMembers []]
    rfl
  rw [ofLine, Json.compact, String.toList_ofList, Json.readAll, hread]
  rfl

/-- What shows an entity may be sent as a line to have the entity appended. -/
theorem ofLine_appends {e : Entity} {members : List (String × Json)}
    (h : e.ShownBy (.object members)) (hwhole : e.Whole)
    (hparts : parts.Perm [("tool", .string e.tool.name), ("args", .object members)]) :
    ∃ r, ofLine (Json.object parts).compact = .ok r ∧ r.Appends e :=
  ⟨_, ofLine_compact (h.readable hwhole _).readValue_chars hparts, .of_shown h.asRead⟩

/-- The request in the bytes of a line is that in the line. -/
theorem ofBytes?_toUTF8 (line : String) : ofBytes? line.toUTF8 = (ofLine line).toOption := by
  have hline : String.fromUTF8? line.toUTF8 = some line := dif_pos line.isValidUTF8
  rw [ofBytes?, hline, Option.bind_some]

end Request

/-! ### The round trip -/

namespace Service

variable (s : Service) (t : Topology) {e : Entity}

/-- A line is answered as its request is. -/
theorem handle_of_request {line : ByteArray} {r : Request} (hr : Request.ofBytes? line = some r) :
    s.handle t line = s.answer t (Call.ofRequest r) := by
  cases htext : String.fromUTF8? line with
  | none =>
      rw [Request.ofBytes?, htext] at hr
      cases hr
  | some text =>
      rw [Request.ofBytes?, htext, Option.bind_some] at hr
      cases hline : Request.ofLine text with
      | error report =>
          rw [hline] at hr
          cases hr
      | ok found =>
          rw [hline] at hr
          cases hr
          rw [handle, Call.ofBytes, htext]
          show s.answer t (Call.ofLine text) = _
          rw [Call.ofLine, hline]
          rfl

/--
**An entity that is written into a line is appended as it was.**

The members of the request, and those of the entity inside it, may be written in any order.  The
list of the entity's sort ends in it then, and the other lists are as they were.
-/
theorem append_written_entity (htexts : FieldValue.text "" ∉ e.values) (hwhole : e.Whole) :
    ∃ shown, e.toJson = .object shown ∧
      ∀ members parts, members.Perm shown →
        parts.Perm [("tool", .string e.tool.name), ("args", .object members)] →
        s.answer t (Call.ofLine (Json.object parts).compact) = (t.push e, .done) ∧
          s.handle t (Json.object parts).compact.toUTF8 = (t.push e, .done) ∧
          t.Gains e (s.handle t (Json.object parts).compact.toUTF8).1 := by
  obtain ⟨shown, hshown⟩ := e.toJson_eq_object
  refine ⟨shown, hshown, fun members parts hmembers hparts => ?_⟩
  have hwritten : e.ShownBy (.object members) := by
    have h := e.shownBy_toJson
    rw [hshown] at h
    exact h.of_perm hmembers.symm
  obtain ⟨r, hline, happends⟩ := Request.ofLine_appends hwritten hwhole hparts
  have hanswer := s.answer_complete t happends htexts
  constructor
  · rw [Call.ofLine, hline]
    exact hanswer
  · have hr : Request.ofBytes? (Json.object parts).compact.toUTF8 = some r := by
      rw [Request.ofBytes?_toUTF8, hline]
      rfl
    rw [s.handle_of_request t hr, hanswer]
    exact ⟨rfl, t.gains_push e⟩

/-- A device as far away as it can be, under a name that has to be escaped. -/
def farDevice : Entity :=
  .device ⟨"R\"1\"\n\t\\", "2911", .integer (-0x8000000000000000) (by decide),
    .integer 0xffffffffffffffff (by decide)⟩

/-- A host with an address that is set but empty, and with nothing else set. -/
def blankHost : Entity := .host ⟨"PC1", none, some "", none, none, none⟩

/-- The line of `farDevice` in one order, and that of `blankHost` in the other one. -/
theorem append_written_extremes :
    (⟨⟨fun _ => []⟩, ⟨true, true, true⟩, true⟩ : Service).handle .empty
        (Json.object [("args", farDevice.toJson),
          ("tool", .string "appendDevice")]).compact.toUTF8
        = (Topology.empty.push farDevice, .done) ∧
      (⟨⟨fun _ => []⟩, ⟨true, true, true⟩, true⟩ : Service).handle .empty
        (Json.object [("tool", .string "appendPcIpConfig"),
          ("args", blankHost.toJson)]).compact.toUTF8
        = (Topology.empty.push blankHost, .done) := by
  have hwhole : farDevice.Whole := by
    intro n hn
    simp only [farDevice, Entity.values, List.mem_cons, FieldValue.position.injEq, reduceCtorEq,
      List.not_mem_nil, false_or, or_false] at hn
    rcases hn with rfl | rfl
    · exact ⟨_, _, rfl⟩
    · exact ⟨_, _, rfl⟩
  have hnone : blankHost.Whole := by
    intro n hn
    simp [blankHost, Entity.values] at hn
  obtain ⟨shown, hshown, hdevice⟩ := append_written_entity
    ⟨⟨fun _ => []⟩, ⟨true, true, true⟩, true⟩ .empty (e := farDevice) (by decide) hwhole
  obtain ⟨shown', hshown', hhost⟩ := append_written_entity
    ⟨⟨fun _ => []⟩, ⟨true, true, true⟩, true⟩ .empty (e := blankHost) (by decide) hnone
  rw [hshown, hshown']
  exact ⟨(hdevice shown _ (.refl _) (.swap _ _ _)).2.1,
    (hhost shown' _ (.refl _) (.refl _)).2.1⟩

end Service

end NetDraft
