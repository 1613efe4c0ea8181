/-
Coordinates on their way through a session.

A coordinate is written into a request line, read, and written into a statement.  What comes out
is the text of the number that the reader makes of the text, and this is the text that went in
exactly if the reader gives back the number that was written.  It does so for integers, and for
floats in few digits and places, whose reading rounds once; it does not do so for every float,
since the reader rounds more than once.
-/
import NetDraft.Proofs.Json.Float
import NetDraft.Proofs.Json.Scaling
import NetDraft.Proofs.Script.Readable
import NetDraft.Proofs.Session.Interleaving

namespace NetDraft

open Text (Ends pieces)

/-! ### Numbers that are read back as they are -/

namespace Number

/-- An integer, or a float that is written with a significand below 2⁵³ and a power of ten between
10⁻²² and 10²². -/
def Short : Number → Prop
  | .integer _ _ => True
  | .float x => ∃ d, Decimal.ofChars? (Binary64.magnitudeText layout x.rank) = some d ∧
      d.digits < 2 ^ 53 ∧ d.exponent.natAbs ≤ 22

/-- **A number in few digits and places is read back from its text.** -/
theorem reread?_of_short {n : Number} (h : n.Short) : n.reread? = some n := by
  cases n with
  | integer i hi => exact reread?_integer hi
  | float x =>
      obtain ⟨d, hd, hdigits, hexponent⟩ := h
      obtain ⟨n, hn, hrank, hread⟩ := readValue_float x
      obtain rfl : n.value = d := Option.some.inj (hn.symm.trans hd)
      have hroom : n.value.digits ≤ Json.significandLimit :=
        Nat.le_of_lt (Nat.lt_of_lt_of_le hdigits (by decide))
      have hsmall : n.value.exponent.natAbs ≤ Json.exponentLimit :=
        Nat.le_trans hexponent (by decide)
      rw [reread?_float (hread 0), n.gathered_eq hroom hsmall]
      exact Json.floatOf?_eq_some hrank hdigits hexponent

/-- Different numbers have different texts. -/
theorem eq_of_text_eq {m n : Number} (h : m.text = n.text) : m = n := by
  have hm := ofChars?_text m
  rw [h, ofChars?_text n] at hm
  exact (Option.some.inj hm).symm

end Number

/-! ### Lines -/

/-- A member is put with those that were read, if its value can be read. -/
theorem Json.readMember_eq {depth : Nat} {value found : Json} {rest : List Char}
    (h : readValue depth (value.chars ++ rest) = .ok (found, rest)) (key : String)
    (before : List (String × Json)) :
    readMember depth key before (':' :: (value.chars ++ rest))
      = .ok (insertEntry key found before, rest) := by
  show (readValue depth (value.chars ++ rest) >>= fun found =>
    .ok (insertEntry key found.1 before, found.2)) = _
  rw [h]
  rfl

section

variable {d : Device} {x y : Number}

/-- What is read for the arguments of a line that appends a device. -/
theorem Device.readValue_toJson (hx : d.x.reread? = some x) (hy : d.y.reread? = some y)
    (depth : Nat) (rest : List Char) :
    Json.readValue (depth + 1) ((Entity.device d).toJson.chars ++ rest)
      = .ok (.object [("model", .string d.model), ("name", .string d.name), ("x", .number x),
          ("y", .number y)], rest) := by
  have hnumber : ∀ {n m : Number}, n.reread? = some m → ∀ rest,
      Ends Json.continuesNumeral rest →
        Json.readValue depth ((Json.number n).chars ++ rest) = .ok (.number m, rest) := by
    intro n m hn rest hrest
    rw [Json.chars, n.readValue_text depth hrest, hn]
    rfl
  have hstring : ∀ (text : String) (rest : List Char),
      Json.readValue depth ((Json.string text).chars ++ rest) = .ok (.string text, rest) :=
    fun text rest => Json.readValue_string depth text rest
  have hgathers : Json.Gathers (Json.readMember depth) [] [("name", .string d.name),
      ("model", .string d.model), ("x", .number d.x), ("y", .number d.y)]
        [("model", .string d.model), ("name", .string d.name), ("x", .number x),
          ("y", .number y)] :=
    .cons (fun rest _ => Json.readMember_eq (hstring d.name rest) _ _)
      (.cons (fun rest _ => Json.readMember_eq (hstring d.model rest) _ _)
        (.cons (fun rest hrest => Json.readMember_eq (hnumber hx rest hrest) _ _)
          (.cons (fun rest hrest => Json.readMember_eq (hnumber hy rest hrest) _ _) (.nil _))))
  have htext : (Entity.device d).toJson.chars ++ rest = '\x7b' :: (Text.joined [',']
      (Json.memberChars [("name", .string d.name), ("model", .string d.model),
        ("x", .number d.x), ("y", .number d.y)]) ++ '\x7d' :: rest) := by
    have hjson : (Entity.device d).toJson = .object [("name", .string d.name),
        ("model", .string d.model), ("x", .number d.x), ("y", .number d.y)] := rfl
    rw [hjson]
    simp [Json.chars]
  rw [htext, Json.readValue_object, hgathers.readMembers]
  rfl

theorem Request.ofBytes?_device (hx : d.x.reread? = some x) (hy : d.y.reread? = some y) :
    ∃ r, ofBytes? (Entity.device d).line.toUTF8 = some r ∧
      r.Appends (.device { d with x := x, y := y }) := by
  have hdepth : argsDepth = argsDepth - 1 + 1 := by decide
  have hread : ofLine (Json.object [("tool", .string "appendDevice"),
      ("args", (Entity.device d).toJson)]).compact = .ok ⟨"appendDevice", .object [
        ("model", .string d.model), ("name", .string d.name), ("x", .number x),
        ("y", .number y)]⟩ :=
    ofLine_compact (fun rest _ => hdepth ▸ Device.readValue_toJson hx hy (argsDepth - 1) rest)
      (.refl _)
  have hshown : (Entity.device { d with x := x, y := y }).ShownBy (.object [("name", .string d.name),
      ("model", .string d.model), ("x", .number x), ("y", .number y)]) := Entity.shownBy_toJson _
  have hline : (Entity.device d).line = (Json.object [("tool", .string "appendDevice"),
      ("args", (Entity.device d).toJson)]).compact := rfl
  refine ⟨_, ?_, .of_shown (hshown.of_perm (.swap _ _ _))⟩
  rw [hline, ofBytes?_toUTF8, hread]
  rfl

end

/-- The line that asks for a script of what was appended, whatever its problems. -/
def generateLine : String :=
  (Json.object [("tool", .string "generate"),
    ("args", .object [("withValidation", .bool false)])]).compact

theorem Request.ofBytes?_generateLine : ofBytes? generateLine.toUTF8
    = some ⟨"generate", .object [("withValidation", .bool false)]⟩ := by
  have hreadable : (Json.object [("withValidation", .bool false)]).Readable argsDepth := by
    refine .object fun m hm => ?_
    rw [List.mem_singleton.mp hm]
    exact .bool _ false
  rw [generateLine, ofBytes?_toUTF8, ofLine_compact hreadable.readValue_chars (.refl _)]
  rfl

/-! ### The script -/

/-- The call that builds a device. -/
theorem Statement.chars_device (d : Device) : (ofEntity (.device d)).chars
    = ("addDevice(" ++ Text.quoted d.name ++ ", " ++ Text.quoted d.model ++ ", " ++ d.x.text ++ ", "
        ++ d.y.text ++ ");").toList := by
  have hjoined : ∀ name model x y : List Char,
      "addDevice".toList ++ '(' :: (Text.joined [',', ' '] [name, model, x, y] ++ [')', ';'])
        = "addDevice(".toList ++ (name ++ (", ".toList ++ (model ++ (", ".toList ++ (x
          ++ (", ".toList ++ (y ++ ");".toList))))))) := by
    intro name model x y
    simp [Text.joined]
  refine (hjoined _ _ _ _).trans ?_
  simp only [Text.quoted, String.toList_append, String.toList_ofList, List.append_assoc]
  rfl

/-- The line of a device stands behind those of the devices that were there before. -/
theorem Script.line_of_device (t : Topology) (d : Device) :
    (pieces '\n' (ofTopology (t.push (.device d))).text.toList)[t.devices.length]?
      = some (Statement.ofEntity (.device d)).chars := by
  have hstatements : (t.push (.device d)).statements
      = t.devices.map (Statement.ofEntity ∘ Entity.device) ++ Statement.ofEntity (.device d)
        :: (t.modules.map Entity.hardware ++ t.links.map Entity.link ++ t.hosts.map Entity.host
          ++ t.routers.map Entity.router).map Statement.ofEntity := by
    simp [Topology.statements, Topology.entities, Topology.push]
  have hne : (t.push (.device d)).statements ≠ [] := by simp [hstatements]
  rw [pieces_text, lines_ofTopology, if_neg hne, List.getElem?_map, List.getElem?_map,
    hstatements, List.getElem?_append_right (by simp)]
  simp [Statement.render]

namespace Service

variable (s : Service) (t : Topology) {d : Device} {x y : Number}

/-- A device is appended as it is read from its line. -/
theorem handle_device (hname : d.name ≠ "") (hmodel : d.model ≠ "")
    (hx : d.x.reread? = some x) (hy : d.y.reread? = some y) :
    s.handle t (Entity.device d).line.toUTF8
      = (t.push (.device { d with x := x, y := y }), .done) := by
  obtain ⟨r, hr, happends⟩ := Request.ofBytes?_device hx hy
  have htexts : FieldValue.text "" ∉ (Entity.device { d with x := x, y := y }).values := by
    simp [Entity.values, hname.symm, hmodel.symm]
  rw [s.handle_of_request t hr, s.answer_complete t happends htexts]

/-- A script without validation is that of the topology. -/
theorem handle_generateLine : s.handle t generateLine.toUTF8
    = (t, .result (.object [("statements", .string (Script.ofTopology t).text)])) := by
  have hasks : s.AsksFor false (.object [("withValidation", .bool false)]) :=
    Or.inl List.mem_cons_self
  rw [s.handle_of_request t Request.ofBytes?_generateLine, s.answer_generate hasks]
  rfl

/--
**What a session makes of coordinates is what the reader makes of their texts.**

The device stands in the script with the coordinates that are read back, and their texts are those
that were written exactly if they are the numbers that were written.
-/
theorem coordinates_reread (hname : d.name ≠ "") (hmodel : d.model ≠ "")
    (hx : d.x.reread? = some x) (hy : d.y.reread? = some y) :
    ∃ text, (s.handleAll t [(Entity.device d).line.toUTF8, generateLine.toUTF8]).2
        = [.done, .result (.object [("statements", .string text)])] ∧
      (pieces '\n' text.toList)[t.devices.length]? = some ("addDevice(" ++ Text.quoted d.name
        ++ ", " ++ Text.quoted d.model ++ ", " ++ x.text ++ ", " ++ y.text ++ ");").toList ∧
      (x.text = d.x.text ↔ x = d.x) ∧ (y.text = d.y.text ↔ y = d.y) := by
  have hscript := Script.line_of_device t { d with x := x, y := y }
  refine ⟨_, ?_, hscript.trans ?_, ⟨Number.eq_of_text_eq, congrArg _⟩,
    ⟨Number.eq_of_text_eq, congrArg _⟩⟩
  · have hrun : ∀ first second, (s.handleAll t [first, second]).2
        = [(s.handle t first).2, (s.handle (s.handle t first).1 second).2] := fun _ _ => rfl
    rw [hrun, s.handle_device t hname hmodel hx hy, handle_generateLine]
  · rw [Statement.chars_device]

/-- **Coordinates in few digits and places come out of a session as they went in.** -/
theorem coordinates_kept (hname : d.name ≠ "") (hmodel : d.model ≠ "") (hx : d.x.Short)
    (hy : d.y.Short) :
    ∃ text, (s.handleAll t [(Entity.device d).line.toUTF8, generateLine.toUTF8]).2
        = [.done, .result (.object [("statements", .string text)])] ∧
      (pieces '\n' text.toList)[t.devices.length]? = some ("addDevice(" ++ Text.quoted d.name
        ++ ", " ++ Text.quoted d.model ++ ", " ++ d.x.text ++ ", " ++ d.y.text ++ ");").toList := by
  obtain ⟨text, hanswers, hline, -⟩ := s.coordinates_reread t hname hmodel
    (Number.reread?_of_short hx) (Number.reread?_of_short hy)
  exact ⟨text, hanswers, hline⟩

/-- A device at 12.5 and 0. -/
def nearDevice : Device := ⟨"R1", "2911", .float ⟨false, 0x4029000000000000, by decide⟩, .ofNat 0⟩

/-- It is where it was put. -/
theorem coordinates_kept_near :
    nearDevice.name ≠ "" ∧ nearDevice.model ≠ "" ∧ nearDevice.x.Short ∧ nearDevice.y.Short ∧
      ∃ text, ((⟨⟨fun _ => []⟩, ⟨true, true, true⟩, true⟩ : Service).handleAll .empty
          [(Entity.device nearDevice).line.toUTF8, generateLine.toUTF8]).2
          = [.done, .result (.object [("statements", .string text)])] ∧
        (pieces '\n' text.toList)[0]? = some ("addDevice(" ++ Text.quoted nearDevice.name
          ++ ", " ++ Text.quoted nearDevice.model ++ ", " ++ nearDevice.x.text ++ ", "
          ++ nearDevice.y.text ++ ");").toList := by
  have hx : nearDevice.x.Short := ⟨⟨125, -1⟩, by decide +kernel, by decide, by decide⟩
  have hy : nearDevice.y.Short := trivial
  exact ⟨by decide, by decide, hx, hy, coordinates_kept
    ⟨⟨fun _ => []⟩, ⟨true, true, true⟩, true⟩ .empty (by decide) (by decide) hx hy⟩

/-- A device at 945.2706955539223 and 0. -/
def driftingDevice : Device :=
  ⟨"R1", "2911", .float ⟨false, 4651525904788240935, by decide⟩, .ofNat 0⟩

/-- It is moved to the next larger coordinate. -/
theorem coordinates_drift :
    driftingDevice.x.text = "945.2706955539223" ∧
      ∃ text, ((⟨⟨fun _ => []⟩, ⟨true, true, true⟩, true⟩ : Service).handleAll .empty
          [(Entity.device driftingDevice).line.toUTF8, generateLine.toUTF8]).2
          = [.done, .result (.object [("statements", .string text)])] ∧
        (pieces '\n' text.toList)[0]?
          = some "addDevice(\"R1\", \"2911\", 945.2706955539225, 0);".toList := by
  have hx : driftingDevice.x.reread?
      = some (.float ⟨false, 4651525904788240936, by decide⟩) := by decide +kernel
  have hy : driftingDevice.y.reread? = some (.ofNat 0) := by decide +kernel
  obtain ⟨text, hanswers, hline, -⟩ := coordinates_reread
    ⟨⟨fun _ => []⟩, ⟨true, true, true⟩, true⟩ .empty (d := driftingDevice) (by decide)
    (by decide) hx hy
  refine ⟨by decide +kernel, text, hanswers, hline.trans ?_⟩
  decide +kernel

end Service

end NetDraft
