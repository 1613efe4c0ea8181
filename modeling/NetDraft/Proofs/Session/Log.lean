/-
A session holds what its log says.

The log of a session pairs each line with its answer.  Nothing else is needed to know the topology:
of each sort it holds what the accepted appends since the last accepted reset carried, in their
order.  One line keeps this by the list of what a line can do, and a run keeps it by induction on
its lines, the last one first, since it is the end of the log that counts.
-/
import Mathlib.Data.List.DropRight
import NetDraft.Proofs.Session.Step

namespace NetDraft

/-- Whether the JSON value of an answer says that the request was accepted. -/
def Answer.saysOk (a : Answer) : Bool :=
  match a.toJson.member? "ok" with
  | some (.bool b) => b
  | _ => false

theorem Answer.saysOk_eq (a : Answer) : a.saysOk = a.isOk := by
  rw [saysOk, member?_ok]

/-! ### Logs -/

/-- A line with its answer. -/
abbrev Exchange := ByteArray × Answer

namespace Exchange

/-- A request to the tool that was accepted. -/
def accepts (tool : String) (x : Exchange) : Bool :=
  x.2.saysOk && (Request.ofBytes? x.1).any fun r => r.tool = tool

/-- What the arguments of the request decode to. -/
def decoded? (α : Type) [Wire α] (x : Exchange) : Option α :=
  (Request.ofBytes? x.1).bind fun r => (Wire.ofJson r.args).toOption

/-- The end of a log behind the last accepted reset. -/
def sinceReset (log : List Exchange) : List Exchange := log.rtakeWhile fun x => !x.accepts "reset"

/-- What the accepted requests to a tool carried. -/
def carried (α : Type) [Wire α] (tool : String) (log : List Exchange) : List (Option α) :=
  (log.filter (accepts tool)).map (decoded? α)

end Exchange

open Exchange

/-- The topology has of each sort what the accepted appends of a log carried, and nothing else. -/
structure Topology.Holds (t : Topology) (log : List Exchange) : Prop where
  devices : t.devices.map some = carried Device "appendDevice" log
  modules : t.modules.map some = carried Module "appendModule" log
  links : t.links.map some = carried Link "appendLink" log
  hosts : t.hosts.map some = carried HostAddressing "appendPcIpConfig" log
  routers : t.routers.map some = carried RouterCommands "appendIosConfig" log

/-! ### One line -/

namespace Exchange

variable {line : ByteArray} {a : Answer} {r : Request}

theorem accepts_eq (hr : Request.ofBytes? line = some r) (tool : String) :
    accepts tool (line, a) = (a.isOk && r.tool = tool) := by
  simp [accepts, Answer.saysOk_eq, hr]

theorem accepts_refused (fault : CallFault) (tool : String) :
    accepts tool (line, .refused fault) = false := rfl

theorem sinceReset_concat (log : List Exchange) (x : Exchange) :
    sinceReset (log ++ [x]) = if x.accepts "reset" then [] else sinceReset log ++ [x] := by
  rw [sinceReset, List.rtakeWhile_concat]
  cases x.accepts "reset" <;> rfl

theorem carried_concat (α : Type) [Wire α] (tool : String) (log : List Exchange) (x : Exchange) :
    carried α tool (log ++ [x])
      = carried α tool log ++ if x.accepts tool then [x.decoded? α] else [] := by
  cases hx : x.accepts tool <;> simp [carried, hx]

end Exchange

namespace Topology

variable {t : Topology} {log : List Exchange} {line : ByteArray}

theorem holds_nil : empty.Holds [] := ⟨rfl, rfl, rfl, rfl, rfl⟩

/-- What is no accepted change does not count. -/
theorem Holds.concat_of_not_accepts {x : Exchange} (h : t.Holds (sinceReset log))
    (hx : ∀ tool ∈ Request.changingTools, x.accepts tool = false) :
    t.Holds (sinceReset (log ++ [x])) := by
  have hnot : ∀ tool ∈ Request.changingTools, ¬x.accepts tool = true := by
    intro tool htool
    simp [hx tool htool]
  rw [sinceReset_concat, if_neg (hnot _ (by decide))]
  refine ⟨?_, ?_, ?_, ?_, ?_⟩ <;>
    rw [carried_concat, if_neg (hnot _ (by decide)), List.append_nil]
  · exact h.devices
  · exact h.modules
  · exact h.links
  · exact h.hosts
  · exact h.routers

/-- An accepted append goes to the list of its sort, and to no other one. -/
theorem Holds.push {r : Request} {e : Entity} (h : t.Holds (sinceReset log))
    (hr : Request.ofBytes? line = some r) (happends : r.Appends e) :
    (t.push e).Holds (sinceReset (log ++ [(line, .done)])) := by
  have haccepts : ∀ tool, accepts tool (line, .done) = (true && decide (r.tool = tool)) :=
    fun tool => accepts_eq hr tool
  rw [sinceReset_concat]
  cases e <;> obtain ⟨htool, hargs⟩ := happends
  all_goals
    constructor <;>
      simp [haccepts, htool, carried_concat, Topology.push, h.devices, h.modules, h.links,
        h.hosts, h.routers, decoded?, hr, hargs, Except.toOption]

/-- **A line keeps the topology to its log.** -/
theorem Holds.step {out : Topology × Answer} (h : t.Holds (sinceReset log))
    (hout : Service.Handles t line out) : out.1.Holds (sinceReset (log ++ [(line, out.2)])) := by
  cases hout with
  | reset r hr htool =>
      have hreset : accepts "reset" (line, .done) = true := by
        rw [accepts_eq hr, htool]
        rfl
      rw [sinceReset_concat, if_pos hreset]
      exact holds_nil
  | append r e hr happends hcheck => exact h.push hr happends
  | query r a hr htool =>
      refine h.concat_of_not_accepts ?_
      intro tool hchanging
      have hne : r.tool ≠ tool := fun heq =>
        Request.not_changing_of_query r.tool htool (heq ▸ hchanging)
      rw [accepts_eq hr]
      simp [hne]
  | refused fault => exact h.concat_of_not_accepts fun _ _ => accepts_refused fault _

/-! ### Required texts -/

/-- No entity of the topology lacks a text that it cannot do without. -/
def Complete (t : Topology) : Prop := ∀ e ∈ t.entities, ∀ field ∈ e.requiredTexts, field.2 ≠ ""

theorem complete_empty : empty.Complete := by simp [Complete, entities, empty]

theorem mem_entities_push (e e' : Entity) :
    e' ∈ (t.push e).entities ↔ e' ∈ t.entities ∨ e' = e := by
  cases e <;> simp only [push, entities, List.map_append, List.map_cons, List.map_nil,
    List.mem_append, List.mem_singleton] <;> grind

theorem requiredTexts_ne_empty {e : Entity} (h : e.check = .ok ()) :
    ∀ field ∈ e.requiredTexts, field.2 ≠ "" := by
  unfold Entity.check at h
  split at h
  · cases h
  next hnone =>
    intro field hfield hempty
    have hnot := List.find?_eq_none.mp hnone field hfield
    simp [hempty] at hnot

theorem Complete.step {out : Topology × Answer} (h : t.Complete)
    (hout : Service.Handles t line out) : out.1.Complete := by
  cases hout with
  | reset => exact complete_empty
  | append r e hr happends hcheck =>
      intro e' he'
      rcases (mem_entities_push e e').mp he' with hold | rfl
      · exact h e' hold
      · exact requiredTexts_ne_empty hcheck
  | query => exact h
  | refused => exact h

end Topology

/-! ### Runs -/

namespace Service

variable (s : Service)

theorem handleAll_append (a b : List ByteArray) : ∀ t, s.handleAll t (a ++ b)
    = ((s.handleAll (s.handleAll t a).1 b).1,
        (s.handleAll t a).2 ++ (s.handleAll (s.handleAll t a).1 b).2) := by
  induction a with
  | nil => intro t; rfl
  | cons line a ih => intro t; simp [handleAll, ih]

theorem length_handleAll (lines : List ByteArray) :
    ∀ t, (s.handleAll t lines).2.length = lines.length := by
  induction lines with
  | nil => intro t; rfl
  | cons line lines ih => intro t; simp [handleAll, ih]

/-- What holds at first and is kept by every line holds after every run. -/
theorem handleAll_induction {P : Topology → Prop}
    (hstep : ∀ t line out, Handles t line out → P t → P out.1) (lines : List ByteArray) :
    ∀ t, P t → P (s.handleAll t lines).1 := by
  induction lines with
  | nil => intro t h; exact h
  | cons line lines ih =>
      intro t h
      exact ih _ (hstep t line _ (s.handles t line) h)

/-- **A run keeps the topology to its log.** -/
theorem holds_handleAll (lines : List ByteArray) : (s.handleAll .empty lines).1.Holds
    (sinceReset (lines.zip (s.handleAll .empty lines).2)) := by
  induction lines using List.reverseRecOn with
  | nil => exact Topology.holds_nil
  | append_singleton lines line ih =>
      have hlength := (s.length_handleAll lines .empty).symm
      have hlast : ∀ t, s.handleAll t [line] = ((s.handle t line).1, [(s.handle t line).2]) :=
        fun _ => rfl
      rw [handleAll_append, hlast, List.zip_append hlength]
      exact ih.step (s.handles _ line)

theorem handle_of_refused {t : Topology} {line : ByteArray}
    (h : (s.handle t line).2.saysOk = false) : (s.handle t line).1 = t := by
  have hout := s.handles t line
  generalize s.handle t line = out at h hout
  cases hout with
  | reset => cases h
  | append => cases h
  | query => rfl
  | refused => rfl

theorem handle_of_query {t : Topology} {line : ByteArray} {r : Request}
    (hr : Request.ofBytes? line = some r) (htool : r.tool ∈ Request.queryTools) :
    (s.handle t line).1 = t := by
  have hnot := Request.not_changing_of_query r.tool htool
  have hout := s.handles t line
  generalize s.handle t line = out at hout
  cases hout with
  | reset r' hr' htool' =>
      obtain rfl := Option.some.inj (hr.symm.trans hr')
      rw [htool'] at hnot
      exact absurd (by decide) hnot
  | append r' e hr' happends =>
      obtain rfl := Option.some.inj (hr.symm.trans hr')
      exact absurd (Request.tool_of_appends happends).1 hnot
  | query => rfl
  | refused => rfl

/-- An accepted reset leaves the topology of a new session. -/
theorem handle_of_reset {t : Topology} {line : ByteArray}
    (h : accepts "reset" (line, (s.handle t line).2) = true) : (s.handle t line).1 = .empty := by
  have hout := s.handles t line
  generalize s.handle t line = out at h hout
  cases hout with
  | reset => rfl
  | append r e hr happends =>
      rw [accepts_eq hr] at h
      simp [(Request.tool_of_appends happends).2] at h
  | query r a hr htool =>
      rw [accepts_eq hr, Bool.and_eq_true, decide_eq_true_eq] at h
      rw [h.2] at htool
      exact absurd htool (by decide)
  | refused => cases h

/--
**A session holds what its log says.**

Every sort of entity is what the accepted appends of its tool carried, behind the last accepted
reset and in their order.  Lines that are refused and lines that only look change nothing, what
follows an accepted reset is answered as in a new session, and nothing in the topology lacks a
text that it cannot do without.
-/
theorem session_refines_log (lines : List ByteArray) :
    (s.handleAll .empty lines).1.Holds
        (sinceReset (lines.zip (s.handleAll .empty lines).2)) ∧
      (s.handleAll .empty lines).2.length = lines.length ∧
      (s.handleAll .empty lines).1.Complete ∧
      (∀ t line, (s.handle t line).2.saysOk = false → (s.handle t line).1 = t) ∧
      (∀ t line r, Request.ofBytes? line = some r → r.tool ∈ Request.queryTools →
        (s.handle t line).1 = t) ∧
      (∀ before line rest a, lines = before ++ line :: rest →
        (s.handleAll .empty lines).2[before.length]? = some a →
        accepts "reset" (line, a) = true →
        (s.handleAll .empty lines).2.drop (before.length + 1) = (s.handleAll .empty rest).2) := by
  refine ⟨s.holds_handleAll lines, s.length_handleAll lines .empty, ?_,
    fun _ _ => s.handle_of_refused, fun _ _ _ => s.handle_of_query, ?_⟩
  · exact s.handleAll_induction (fun _ _ _ hout h => h.step hout) lines .empty
      Topology.complete_empty
  · rintro before line rest a rfl ha hreset
    have hlength := s.length_handleAll before .empty
    rw [handleAll_append] at ha ⊢
    dsimp only [handleAll] at ha ⊢
    rw [List.getElem?_append_right (Nat.le_of_eq hlength), hlength, Nat.sub_self,
      List.getElem?_cons_zero, Option.some.injEq] at ha
    subst ha
    rw [s.handle_of_reset hreset, List.drop_append, List.drop_eq_nil_of_le (by omega), hlength,
      Nat.add_sub_cancel_left]
    rfl

end Service

end NetDraft
