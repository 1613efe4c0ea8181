/-
Scripts can be read in one way only.

Every statement that a topology gives rise to is a call by a name of letters with arguments, so
the reader takes each line for what it is, and no line holds a line break.  What is read of an
entity tells which entity it was: no two calls have the same name, an absent value is a word and
no string, and numbers keep their representation.  So the text of a script determines its lines,
its statements and the topology.
-/
import NetDraft.Proofs.Script.Reader
import NetDraft.Proofs.Text.Cutting
import NetDraft.Proofs.Topology.Entities

namespace NetDraft

/-! ### Statements of entities -/

namespace Statement

/-- A call by a name of letters with at least one argument. -/
structure IsCall (s : Statement) : Prop where
  call_isAlpha : ∀ c ∈ s.call.toList, c.isAlpha = true
  args_ne_nil : s.args ≠ []

theorem isCall_ofEntity (e : Entity) : (ofEntity e).IsCall := by
  have hname : ∀ name ∈ ["addDevice", "addModule", "addLink", "configurePcIp",
      "configureIosDevice"], ∀ c ∈ name.toList, c.isAlpha = true := by simp
  cases e <;> exact ⟨hname _ (by simp [ofEntity]), by simp [ofEntity]⟩

theorem isCall_of_mem_statements {t : Topology} : ∀ s ∈ t.statements, s.IsCall := by
  intro s hs
  obtain ⟨e, -, rfl⟩ := List.mem_map.mp hs
  exact isCall_ofEntity e

/-- A statement is written without control characters, and so on one line. -/
theorem IsCall.newline_not_mem {s : Statement} (h : s.IsCall) : '\n' ∉ s.chars := by
  intro hc
  rw [chars, List.mem_append, List.mem_cons, List.mem_append] at hc
  rcases hc with hcall | hparen | hargs | hend
  · exact absurd (h.call_isAlpha _ hcall) (by decide)
  · exact absurd hparen (by decide)
  · rcases Text.mem_joined hargs with hsep | ⟨text, htext, hc⟩
    · exact absurd hsep (by decide)
    · obtain ⟨l, -, rfl⟩ := List.mem_map.mp htext
      exact absurd (Literal.le_toNat_of_mem_chars hc) (by decide)
  · exact absurd hend (by decide)

/-- The call ends at the first parenthesis. -/
theorem IsCall.paren_not_mem {s : Statement} (h : s.IsCall) : '(' ∉ s.call.toList :=
  fun hc => absurd (h.call_isAlpha _ hc) (by decide)

/-- No statement is the comment of an empty script, which holds no parenthesis. -/
theorem chars_ne_emptyLine (s : Statement) : s.chars ≠ Script.emptyLine.toList := by
  intro heq
  have hparen : '(' ∈ s.chars := by simp [chars]
  rw [heq] at hparen
  exact absurd hparen (by decide)

theorem render_ne_emptyLine (s : Statement) : s.render ≠ Script.emptyLine := by
  intro heq
  refine s.chars_ne_emptyLine ?_
  rw [← heq, render, String.toList_ofList]

end Statement

/-! ### Lines -/

namespace Script

theorem readLine?_chars {s : Statement} (h : s.IsCall) : readLine? s.chars = some [s.asRead] := by
  rw [readLine?, if_neg s.chars_ne_emptyLine, Statement.read?_chars h.paren_not_mem h.args_ne_nil,
    Option.map_some]

theorem mapM_readLine? {statements : List Statement} (h : ∀ s ∈ statements, s.IsCall) :
    (statements.map Statement.chars).mapM readLine?
      = some (statements.map fun s => [s.asRead]) := by
  induction statements with
  | nil => rfl
  | cons s rest ih =>
      have hs := readLine?_chars (h s (by simp))
      have hrest := ih fun s hs => h s (by simp [hs])
      rw [List.map_cons, List.mapM_cons, hs, hrest]
      rfl

theorem lines_ofTopology (t : Topology) : (ofTopology t).lines =
    if t.statements = [] then [emptyLine] else t.statements.map Statement.render := by
  unfold ofTopology
  cases t.statements <;> rfl

/-- The lines hold no line break. -/
theorem newline_not_mem_lines {t : Topology} :
    ∀ line ∈ (ofTopology t).lines.map String.toList, '\n' ∉ line := by
  intro line hline
  rw [lines_ofTopology] at hline
  split at hline
  · rw [List.map_singleton, List.mem_singleton] at hline
    rw [hline]
    decide
  · rw [List.map_map, List.mem_map] at hline
    obtain ⟨s, hs, rfl⟩ := hline
    rw [Function.comp_apply, Statement.render, String.toList_ofList]
    exact (Statement.isCall_of_mem_statements s hs).newline_not_mem

/-- Cutting the text at its line breaks gives the lines. -/
theorem pieces_text (t : Topology) :
    Text.pieces '\n' (ofTopology t).text.toList = (ofTopology t).lines.map String.toList := by
  have hne : (ofTopology t).lines.map String.toList ≠ [] := by
    rw [lines_ofTopology]
    split <;> simp_all
  rw [text, String.toList_ofList, Text.pieces_joined hne newline_not_mem_lines]

/-- Reading the text of a script gives the statements of the topology in their order. -/
theorem read?_ofTopology (t : Topology) :
    read? (ofTopology t).text = some (t.statements.map Statement.asRead) := by
  rw [read?, pieces_text, lines_ofTopology]
  by_cases hempty : t.statements = []
  · rw [if_pos hempty, hempty]
    decide
  · have hchars : (t.statements.map Statement.render).map String.toList
        = t.statements.map Statement.chars := by
      simp [Statement.render, Function.comp_def]
    rw [if_neg hempty, hchars, mapM_readLine? Statement.isCall_of_mem_statements,
      Option.map_some, ← List.flatMap_def, List.map_eq_flatMap]

end Script

/-! ### What tells entities apart -/

theorem Number.ofNat_inj {m n : Nat} (hm : m ≤ 0xffffffffffffffff) (hn : n ≤ 0xffffffffffffffff)
    (h : Number.ofNat m = Number.ofNat n) : m = n := by
  simp only [Number.ofNat, Number.integer.injEq, Int.natCast_inj] at h
  omega

namespace Literal

theorem asRead_word_inj {m n : UInt32} (h : (word m).asRead = (word n).asRead) : m = n := by
  have hm := m.toNat_lt
  have hn := n.toNat_lt
  exact UInt32.toNat_inj.mp (Number.ofNat_inj (by omega) (by omega) (Literal.number.inj h))

/-- An absent text is no text. -/
theorem asRead_ofText?_inj {a b : Option String} (h : (ofText? a).asRead = (ofText? b).asRead) :
    a = b := by
  cases a <;> cases b <;> simp_all [ofText?, asRead]

theorem asRead_ofFlag?_inj {a b : Option Bool} (h : (ofFlag? a).asRead = (ofFlag? b).asRead) :
    a = b := by
  cases a <;> cases b <;> simp_all [ofFlag?, asRead]

end Literal

/-- What is read of an entity tells which one it was. -/
theorem Statement.asRead_ofEntity_inj {e f : Entity}
    (h : (Statement.ofEntity e).asRead = (Statement.ofEntity f).asRead) : e = f := by
  obtain ⟨hcall, hargs⟩ := Statement.mk.inj h
  -- Entities of different sorts have different calls.
  cases e <;> cases f <;> first | (simp [ofEntity] at hcall; done) | skip
  all_goals simp only [ofEntity, List.map_cons, List.map_nil, List.cons.injEq, and_true] at hargs
  case device.device d d' =>
    obtain ⟨hname, hmodel, hx, hy⟩ := hargs
    obtain ⟨name, model, x, y⟩ := d
    simp_all [Literal.asRead]
  case hardware.hardware m m' =>
    obtain ⟨hdevice, hslot, hmodel⟩ := hargs
    obtain ⟨device, slot, model⟩ := m
    have hslot := Literal.asRead_word_inj hslot
    simp_all [Literal.asRead]
  case link.link l l' =>
    obtain ⟨⟨device, interface⟩, ⟨device', interface'⟩, cable⟩ := l
    simp_all [Literal.asRead]
  case host.host a a' =>
    obtain ⟨hdevice, hdhcp, haddress, hmask, hgateway, hdns⟩ := hargs
    obtain ⟨device, dhcp, address, mask, gateway, dns⟩ := a
    have hdhcp := Literal.asRead_ofFlag?_inj hdhcp
    have haddress := Literal.asRead_ofText?_inj haddress
    have hmask := Literal.asRead_ofText?_inj hmask
    have hgateway := Literal.asRead_ofText?_inj hgateway
    have hdns := Literal.asRead_ofText?_inj hdns
    simp_all [Literal.asRead]
  case router.router r r' =>
    obtain ⟨device, commands⟩ := r
    simp_all [Literal.asRead]

namespace Topology

/-- The statements as they are read determine the topology. -/
theorem eq_of_statements_asRead {t u : Topology}
    (h : t.statements.map Statement.asRead = u.statements.map Statement.asRead) : t = u := by
  have hinj : Function.Injective (Statement.asRead ∘ Statement.ofEntity) :=
    fun _ _ => Statement.asRead_ofEntity_inj
  rw [statements, statements, List.map_map, List.map_map] at h
  rw [← ofEntities_entities t, ← ofEntities_entities u, List.map_injective_iff.mpr hinj h]

/--
**The text of a script can be read in one way only.**

Reading it gives back the statements in their order with the values of all their arguments: those
of the devices, then of the modules, the links, the host addressing and the router commands, an
absent value as the word for it.  Cutting the text at the line breaks gives the lines, and no other
topology has the same text.
-/
theorem script_readable (t : Topology) :
    Script.read? (Script.ofTopology t).text = some (t.statements.map Statement.asRead) ∧
      t.statements.map Statement.asRead =
        t.devices.map (fun d =>
          ⟨"addDevice", [.text d.name, .text d.model, .number d.x, .number d.y]⟩)
        ++ t.modules.map (fun m =>
          ⟨"addModule", [.text m.device, .number (.ofNat m.slot.toNat), .text m.model]⟩)
        ++ t.links.map (fun l => ⟨"addLink", [.text l.first.device, .text l.first.interface,
          .text l.second.device, .text l.second.interface, .text l.cable]⟩)
        ++ t.hosts.map (fun h => ⟨"configurePcIp", [.text h.device, h.dhcp.elim .undefined .flag,
          h.address.elim .undefined .text, h.mask.elim .undefined .text,
          h.gateway.elim .undefined .text, h.dns.elim .undefined .text]⟩)
        ++ t.routers.map (fun r =>
          ⟨"configureIosDevice", [.text r.device, .text r.commands]⟩) ∧
      Text.pieces '\n' (Script.ofTopology t).text.toList
        = (Script.ofTopology t).lines.map String.toList ∧
      ∀ u, (Script.ofTopology u).text = (Script.ofTopology t).text → u = t := by
  refine ⟨Script.read?_ofTopology t, ?_, Script.pieces_text t, ?_⟩
  · simp [statements, entities, Statement.ofEntity, Statement.asRead, Function.comp_def]
  · intro u h
    have hread := Script.read?_ofTopology u
    rw [h, Script.read?_ofTopology t] at hread
    exact eq_of_statements_asRead (Option.some.inj hread).symm

end Topology

end NetDraft
