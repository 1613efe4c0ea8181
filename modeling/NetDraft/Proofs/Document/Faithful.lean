/-
JSON texts as topology documents.

A document that is written as JSON and read as YAML comes back as it was, provided that its texts
are made of characters that mean the same in both languages.  Other texts exist: JSON writes a
delete character as it is, and YAML does not allow it; JSON writes a next line character as it is,
and YAML takes it for a line break.  In the first case the document is refused as a whole.
-/
import NetDraft.Document
import NetDraft.Proofs.Shape.Loading

namespace NetDraft

/-! ### Texts of a shape -/

section

variable {α : Type} [Wire α] {a : α}

/-- What is written of a value as an object of common characters is loaded as the value. -/
theorem Wire.ofYaml_toJson (hback : (Wire.shape α).LoadsBack) {members : List (String × Json)}
    (hobject : Wire.toJson a = .object members) (h : (Wire.toJson a).HasCommonStrings) :
    Wire.ofYaml (Wire.toJson a).compact = .ok a := by
  have hshared : (Json.object members).Shared := hobject ▸ hback.shared (Wire.toVal a) h
  obtain ⟨root, stop, hread, hshows⟩ := Json.ofText?_compact hshared
  rw [← hobject] at hshows
  have hloads := hback.loads ⟨some root, stop, []⟩ (Wire.toVal a) root .root hshows
  have hvalue : (Wire.shape α).ofYaml (Json.object members).compact = .ok (Wire.toVal a) := by
    rw [Shape.ofYaml, hread]
    dsimp only
    rw [hloads]
  rw [Wire.ofYaml, hobject, hvalue]
  exact congrArg Except.ok (Wire.ofVal_toVal a)

/-- A text with a character that is not allowed is no document. -/
theorem Wire.ofYaml_eq_malformed {s : String} (hs : s ∈ (Wire.toJson a).strings) {c : Char}
    (hc : c ∈ s.toList) (hlarge : 0x20 ≤ c.toNat) (hallowed : Yaml.isAllowed c = false) :
    (Wire.ofYaml (Wire.toJson a).compact : Except YamlFault α) = .error .malformed := by
  have hnone := Json.tokens?_eq_none hs hc hlarge hallowed
  have hread : Yaml.Document.ofText? (Wire.toJson a).compact = none := by
    rw [Yaml.Document.ofText?, Json.compact, String.toList_ofList, hnone]
    rfl
  rw [Wire.ofYaml, Shape.ofYaml, hread]
  rfl

end

/-! ### Documents -/

namespace Document

/-- The texts of the entities. -/
def texts (d : Document) : List String :=
  (d.devices.flatMap fun x => [x.name, x.model])
    ++ (d.modules.flatMap fun x => [x.device, x.model])
    ++ (d.links.flatMap fun x =>
      [x.first.device, x.first.interface, x.second.device, x.second.interface, x.cable])
    ++ (d.hosts.flatMap fun x =>
      x.device :: (x.address.toList ++ x.mask.toList ++ x.gateway.toList ++ x.dns.toList))
    ++ (d.routers.flatMap fun x => [x.device, x.commands])

theorem itemStrings_writeSection {α : Type} [Wire α] (xs : List α) :
    Json.itemStrings ((xs.map Wire.toVal).map (Wire.shape α).toJson)
      = xs.flatMap fun x => (Wire.toJson x).strings := by
  induction xs with
  | nil => rfl
  | cons x xs ih =>
      rw [List.map_cons, List.map_cons, Json.itemStrings, ih]
      rfl

theorem strings_host (h : HostAddressing) : (Wire.toJson h).strings
    = h.device :: (h.address.toList ++ h.mask.toList ++ h.gateway.toList ++ h.dns.toList) := by
  obtain ⟨device, dhcp, address, mask, gateway, dns⟩ := h
  cases dhcp <;> cases address <;> cases mask <;> cases gateway <;> cases dns <;> rfl

theorem strings_toJson (d : Document) : (Wire.toJson d).strings = d.texts := by
  have hsections : (Wire.toJson d).strings
      = (d.devices.flatMap fun x => (Wire.toJson x).strings)
        ++ ((d.modules.flatMap fun x => (Wire.toJson x).strings)
        ++ ((d.links.flatMap fun x => (Wire.toJson x).strings)
        ++ ((d.hosts.flatMap fun x => (Wire.toJson x).strings)
        ++ ((d.routers.flatMap fun x => (Wire.toJson x).strings) ++ [])))) := by
    simp only [← itemStrings_writeSection]
    rfl
  rw [hsections, texts]
  simp only [strings_host, List.append_assoc, List.append_nil]
  rfl

theorem loadsBack_shape : (Wire.shape Document).LoadsBack := by
  have htext := Shape.loadsBack_text
  have hnumber := Shape.loadsBack_number
  have hflag? : (Shape.optional .flag).LoadsBack :=
    Shape.loadsBack_optional Shape.loadsBack_flag nofun
  have htext? : (Shape.optional .text).LoadsBack := Shape.loadsBack_optional htext nofun
  have hdevice : (Wire.shape Device).LoadsBack :=
    Shape.loadsBack_record (by decide) (by decide) ⟨htext, htext, hnumber, hnumber, trivial⟩
  have hmodule : (Wire.shape Module).LoadsBack :=
    Shape.loadsBack_record (by decide) (by decide) ⟨htext, Shape.loadsBack_word, htext, trivial⟩
  have hlink : (Wire.shape Link).LoadsBack :=
    Shape.loadsBack_record (by decide) (by decide) ⟨htext, htext, htext, htext, htext, trivial⟩
  have hhost : (Wire.shape HostAddressing).LoadsBack :=
    Shape.loadsBack_record (by decide) (by decide)
      ⟨htext, hflag?, htext?, htext?, htext?, htext?, trivial⟩
  have hrouter : (Wire.shape RouterCommands).LoadsBack :=
    Shape.loadsBack_record (by decide) (by decide) ⟨htext, htext, trivial⟩
  exact Shape.loadsBack_record (by decide) (by decide)
    ⟨Shape.loadsBack_list hdevice, Shape.loadsBack_list hmodule, Shape.loadsBack_list hlink,
      Shape.loadsBack_list hhost, Shape.loadsBack_list hrouter, trivial⟩

/--
**A document comes back from its JSON text if its texts mean the same in both languages.**
-/
theorem ofYaml_compact (d : Document)
    (h : ∀ text ∈ d.texts, ∀ c ∈ text.toList, Yaml.IsCommon c) :
    Wire.ofYaml (Wire.toJson d).compact = .ok d :=
  Wire.ofYaml_toJson loadsBack_shape rfl (by rwa [Json.HasCommonStrings, strings_toJson])

/-- **A document with a text that YAML does not allow is refused as a whole.** -/
theorem ofYaml_malformed (d : Document) {text : String} (htext : text ∈ d.texts) {c : Char}
    (hc : c ∈ text.toList) (hlarge : 0x20 ≤ c.toNat) (hallowed : Yaml.isAllowed c = false) :
    (Wire.ofYaml (Wire.toJson d).compact : Except YamlFault Document) = .error .malformed :=
  Wire.ofYaml_eq_malformed (by rwa [strings_toJson]) hc hlarge hallowed

/-- A document with entities of every sort: a coordinate of seventeen digits, a text that is set but
empty, and commands with quotes, line breaks and signs that begin something in YAML. -/
def office : Document where
  devices := [⟨"Zürich \"core\"", "2911", .float ⟨false, 4599075939470750516, by decide⟩,
      .integer (-40) (by decide)⟩, ⟨"PC1", "PC-PT", .ofNat 0, .float (.zero true)⟩]
  modules := [⟨"Zürich \"core\"", 4294967295, "HWIC-2T"⟩]
  links := [⟨⟨"PC1", "Fa0"⟩, ⟨"Zürich \"core\"", "Gig0/0"⟩, "straight"⟩]
  hosts := [⟨"PC1", some false, some "", some "255.255.255.0", none, some "null"⟩]
  routers := [⟨"Zürich \"core\"", "enable\n\tbanner motd # \x7ba: [b, *c]\x7d \\ 'd' #\r\n"⟩]

theorem ofYaml_compact_office : (∀ text ∈ office.texts, ∀ c ∈ text.toList, Yaml.IsCommon c) ∧
    Wire.ofYaml (Wire.toJson office).compact = .ok office := by
  have hall : office.texts.all (·.toList.all (Yaml.IsCommon ·)) = true := by decide +kernel
  have h : ∀ text ∈ office.texts, ∀ c ∈ text.toList, Yaml.IsCommon c := by
    simpa only [List.all_eq_true, decide_eq_true_eq] using hall
  exact ⟨h, ofYaml_compact _ h⟩

/-- A document with one device, which has a character in the middle of its name. -/
def named (c : Char) : Document :=
  ⟨[⟨String.ofList ['R', c, '1'], "2911", .ofNat 0, .ofNat 0⟩], [], [], [], []⟩

/-- A delete character is not allowed, and a next line character is read as a space. -/
theorem ofYaml_compact_fails :
    (Wire.ofYaml (Wire.toJson (named '\x7f')).compact : Except YamlFault Document)
        = .error .malformed ∧
      Wire.ofYaml (Wire.toJson (named '\x85')).compact = .ok (named ' ') ∧
      named ' ' ≠ named '\x85' := by
  have hdelete := (named '\x7f').ofYaml_malformed List.mem_cons_self
    (List.mem_cons_of_mem _ List.mem_cons_self) (by decide) (by decide)
  exact ⟨hdelete, by decide +kernel, by decide⟩

end Document

end NetDraft
