/-
What one line can do to a session.

A line is turned down at one of several places: it may be no text, no request, the name of no
tool, or arguments of the wrong form, and an entity may lack a text.  None of these places has
touched the topology.  What is left are three things that an accepted line does: it empties the
topology, it appends the entity in its arguments, or it only looks.  `Handles` lists them once, and
everything about sessions is read off this list.
-/
import NetDraft.Session

namespace NetDraft

namespace Request

/-- The request in a line of bytes, if there is one. -/
def ofBytes? (line : ByteArray) : Option Request :=
  (String.fromUTF8? line).bind fun text => (ofLine text).toOption

/-- The request is to append the entity, which its arguments decode to. -/
def Appends (r : Request) : Entity → Prop
  | .device d => r.tool = "appendDevice" ∧ Wire.ofJson r.args = .ok d
  | .hardware m => r.tool = "appendModule" ∧ Wire.ofJson r.args = .ok m
  | .link l => r.tool = "appendLink" ∧ Wire.ofJson r.args = .ok l
  | .host h => r.tool = "appendPcIpConfig" ∧ Wire.ofJson r.args = .ok h
  | .router c => r.tool = "appendIosConfig" ∧ Wire.ofJson r.args = .ok c

/-- The tools that only look at the topology. -/
def queryTools : List String := ["validate", "generate", "listCatalog", "summarize"]

/-- The tools that change the topology. -/
def changingTools : List String :=
  ["reset", "appendDevice", "appendModule", "appendLink", "appendPcIpConfig", "appendIosConfig"]

theorem not_changing_of_query : ∀ tool ∈ queryTools, tool ∉ changingTools := by decide

/-- An append is none of the other changes. -/
theorem tool_of_appends {r : Request} {e : Entity} (h : r.Appends e) :
    r.tool ∈ changingTools ∧ r.tool ≠ "reset" := by
  cases e <;> rw [h.1] <;> decide

end Request

/-! ### From lines to calls -/

namespace Call

/-- The call only looks at the topology. -/
def IsQuery : Call → Prop
  | .reset => False
  | .append _ => False
  | _ => True

/-- What is read for an entity is the append of what the arguments decode to. -/
theorem readEntity_eq_ok {α : Type} [Wire α] {make : α → Entity} {r : Request} {call : Call}
    (h : readEntity make r = .ok call) :
    ∃ a, Wire.ofJson r.args = .ok a ∧ call = .append (make a) := by
  unfold readEntity readArgs at h
  cases ha : (Wire.ofJson r.args : Except Mismatch α) with
  | error m =>
      rw [ha] at h
      cases h
  | ok a =>
      rw [ha] at h
      cases h
      exact ⟨a, rfl, rfl⟩

theorem isQuery_of_readGenerate {r : Request} {call : Call} (h : readGenerate r = .ok call) :
    call.IsQuery := by
  unfold readGenerate readArgs at h
  split at h
  · cases h
    trivial
  · cases ha : (Wire.ofJson r.args : Except Mismatch GenerateArgs) <;> rw [ha] at h <;> cases h
    trivial

theorem isQuery_of_readList {r : Request} {call : Call} (h : readList r = .ok call) :
    call.IsQuery := by
  unfold readList readArgs at h
  cases ha : (Wire.ofJson r.args : Except Mismatch ListArgs) <;> rw [ha] at h <;> cases h
  trivial

/-- What a request can call for, and by the name of which tool. -/
theorem ofRequest_cases {r : Request} {call : Call} (h : ofRequest r = .ok call) :
    (r.tool = "reset" ∧ call = .reset) ∨ (∃ e, r.Appends e ∧ call = .append e) ∨
      (r.tool ∈ Request.queryTools ∧ call.IsQuery) := by
  unfold ofRequest at h
  split at h
  next htool => exact Or.inl ⟨htool, by cases h; rfl⟩
  next htool =>
    obtain ⟨d, hd, rfl⟩ := readEntity_eq_ok h
    exact Or.inr (Or.inl ⟨.device d, ⟨htool, hd⟩, rfl⟩)
  next htool =>
    obtain ⟨m, hm, rfl⟩ := readEntity_eq_ok h
    exact Or.inr (Or.inl ⟨.hardware m, ⟨htool, hm⟩, rfl⟩)
  next htool =>
    obtain ⟨l, hl, rfl⟩ := readEntity_eq_ok h
    exact Or.inr (Or.inl ⟨.link l, ⟨htool, hl⟩, rfl⟩)
  next htool =>
    obtain ⟨a, ha, rfl⟩ := readEntity_eq_ok h
    exact Or.inr (Or.inl ⟨.host a, ⟨htool, ha⟩, rfl⟩)
  next htool =>
    obtain ⟨c, hc, rfl⟩ := readEntity_eq_ok h
    exact Or.inr (Or.inl ⟨.router c, ⟨htool, hc⟩, rfl⟩)
  next htool => exact Or.inr (Or.inr ⟨by simp [Request.queryTools, htool], by cases h; trivial⟩)
  next htool =>
    exact Or.inr (Or.inr ⟨by simp [Request.queryTools, htool], isQuery_of_readGenerate h⟩)
  next htool =>
    exact Or.inr (Or.inr ⟨by simp [Request.queryTools, htool], isQuery_of_readList h⟩)
  next htool => exact Or.inr (Or.inr ⟨by simp [Request.queryTools, htool], by cases h; trivial⟩)
  next => cases h

/-- A line that makes a call is a request. -/
theorem ofBytes_eq_ok {line : ByteArray} {call : Call} (h : ofBytes line = .ok call) :
    ∃ r, Request.ofBytes? line = some r ∧ ofRequest r = .ok call := by
  unfold ofBytes at h
  cases htext : String.fromUTF8? line with
  | none =>
      rw [htext] at h
      cases h
  | some text =>
      rw [htext] at h
      change ofLine text = .ok call at h
      unfold ofLine at h
      cases hr : Request.ofLine text with
      | error report =>
          rw [hr] at h
          cases h
      | ok r =>
          rw [hr] at h
          exact ⟨r, by simp [Request.ofBytes?, htext, hr, Except.toOption], h⟩

end Call

/-! ### Answers -/

/-- The value of a member of an object. -/
def Json.member? (key : String) : Json → Option Json
  | .object members => (members.find? fun m => m.1 = key).map (·.2)
  | _ => none

/-- Whether a request was accepted is what its answer says. -/
theorem Answer.member?_ok (a : Answer) : a.toJson.member? "ok" = some (.bool a.isOk) := by
  cases a <;> rfl

/-! ### From calls to topologies -/

namespace Service

/-- What a line can do to a topology, and how it is answered. -/
inductive Handles (t : Topology) (line : ByteArray) : Topology × Answer → Prop
  | reset (r : Request) (hr : Request.ofBytes? line = some r) (htool : r.tool = "reset") :
      Handles t line (.empty, .done)
  | append (r : Request) (e : Entity) (hr : Request.ofBytes? line = some r) (happends : r.Appends e)
      (hcheck : e.check = .ok ()) : Handles t line (t.push e, .done)
  | query (r : Request) (a : Answer) (hr : Request.ofBytes? line = some r)
      (htool : r.tool ∈ Request.queryTools) : Handles t line (t, a)
  | refused (fault : CallFault) : Handles t line (t, .refused fault)

theorem perform_of_isQuery (s : Service) (t : Topology) {call : Call} (h : call.IsQuery) :
    (s.perform t call).1 = t := by
  cases call with
  | reset => exact h.elim
  | append e => exact h.elim
  | list kind limit startsWith =>
      cases hlist : s.inventory.list? kind limit startsWith <;> simp [perform, hlist]
  | _ => rfl

/-- **A line does one of the things listed.** -/
theorem handles (s : Service) (t : Topology) (line : ByteArray) :
    Handles t line (s.handle t line) := by
  unfold handle
  cases hcall : Call.ofBytes line with
  | error fault => exact .refused fault
  | ok call =>
      obtain ⟨r, hr, hrequest⟩ := Call.ofBytes_eq_ok hcall
      rcases Call.ofRequest_cases hrequest with ⟨htool, rfl⟩ | ⟨e, happends, rfl⟩ |
        ⟨htool, hquery⟩
      · exact .reset r hr htool
      · cases hcheck : e.check with
        | error fault =>
            have hrefused : s.answer t (.ok (.append e)) = (t, .refused (.emptyField fault)) := by
              simp only [answer, perform, Topology.append, hcheck]
              rfl
            rw [hrefused]
            exact .refused _
        | ok =>
            have happended : s.answer t (.ok (.append e)) = (t.push e, .done) := by
              simp only [answer, perform, Topology.append, hcheck]
              rfl
            rw [happended]
            exact .append r e hr happends hcheck
      · have hkept : s.answer t (.ok call) = (t, (s.perform t call).2) :=
          Prod.ext (s.perform_of_isQuery t hquery) rfl
        rw [hkept]
        exact .query r _ hr htool

end Service

end NetDraft
