/-
A line is accepted or refused for its own sake.

Whether a line is refused, and in which words, is said here by a function of the line: it looks
at the bytes, at the request in them, at the arguments, and last at the texts of an entity and at
the limit of a listing.  It is given neither a topology nor an inventory nor rules, and every
service gives its verdict, so that the verdicts of two sessions on one line never differ.
-/
import NetDraft.Proofs.Session.RoundTrip

namespace NetDraft

/-! ### The verdict -/

/-- Why a call is turned down, if it is. -/
def Call.refusal? : Call → Option CallFault
  | .append e =>
    match e.check with
    | .ok () => none
    | .error fault => some (.emptyField fault)
  | .list _ limit _ => if 1 ≤ limit ∧ limit ≤ Inventory.maxLimit then none else some (.limit limit)
  | _ => none

/-- Why a line is turned down, if it is. -/
def Call.verdict (line : ByteArray) : Option CallFault :=
  match Call.ofBytes line with
  | .ok call => call.refusal?
  | .error fault => some fault

/-- What an answer turns its request down for, if it does. -/
def Answer.fault? : Answer → Option CallFault
  | .refused fault => some fault
  | _ => none

theorem Answer.saysOk_eq_isNone (a : Answer) : a.saysOk = a.fault?.isNone := by
  rw [saysOk_eq]
  cases a <;> rfl

theorem Answer.eq_refused {a : Answer} {fault : CallFault} (h : a.fault? = some fault) :
    a = .refused fault := by
  cases a with
  | refused found => rw [Option.some.inj h]
  | _ => cases h

namespace Service

variable (s : Service) (t : Topology)

/-- Every service turns down the same calls. -/
theorem fault?_perform (call : Call) : (s.perform t call).2.fault? = call.refusal? := by
  cases call with
  | append e =>
      cases hcheck : e.check with
      | error fault =>
          simp only [perform, Topology.append, Call.refusal?, hcheck]
          rfl
      | ok =>
          simp only [perform, Topology.append, Call.refusal?, hcheck]
          rfl
  | list kind limit startsWith =>
      by_cases hlimit : 1 ≤ limit ∧ limit ≤ Inventory.maxLimit
      · simp [perform, Inventory.list?, Call.refusal?, hlimit, Answer.fault?]
      · simp [perform, Inventory.list?, Call.refusal?, hlimit, Answer.fault?]
  | _ => rfl

/-- **A line is turned down for the reason that it gives itself.** -/
theorem fault?_handle (line : ByteArray) : (s.handle t line).2.fault? = Call.verdict line := by
  unfold handle Call.verdict
  cases Call.ofBytes line with
  | error fault => rfl
  | ok call => exact s.fault?_perform t call

theorem saysOk_handle (line : ByteArray) :
    (s.handle t line).2.saysOk = (Call.verdict line).isNone := by
  rw [Answer.saysOk_eq_isNone, fault?_handle]

end Service

/-! ### Verdicts on requests -/

namespace Service

variable (s : Service) (t : Topology) {line : ByteArray} {r : Request}

/-- An append is accepted if its entity has the texts that it cannot do without. -/
theorem saysOk_of_appends {e : Entity} (hr : Request.ofBytes? line = some r)
    (h : r.Appends e) : (s.handle t line).2.saysOk ↔ ∀ field ∈ e.requiredTexts, field.2 ≠ "" := by
  rw [Answer.saysOk_eq, s.handle_of_request t hr, s.answer_of_appends t h]
  constructor
  · intro hok
    cases hcheck : e.check with
    | ok => exact Topology.requiredTexts_ne_empty hcheck
    | error fault => simp [hcheck, Answer.isOk] at hok
  · intro htexts
    have hnone : e.requiredTexts.find? (fun field => field.2.isEmpty) = none := by
      rw [List.find?_eq_none]
      intro field hfield
      simp [htexts field hfield]
    have hcheck : e.check = .ok () := by
      unfold Entity.check
      rw [hnone]
    simp [hcheck, Answer.isOk]

/-- Looking for problems is accepted, whatever the problems. -/
theorem saysOk_of_validate (hr : Request.ofBytes? line = some r) (htool : r.tool = "validate") :
    (s.handle t line).2.saysOk := by
  obtain ⟨tool, args⟩ := r
  subst htool
  rw [s.handle_of_request t hr]
  rfl

/-- Generating a script is accepted if its arguments can be read, whatever the problems. -/
theorem saysOk_of_generate (hr : Request.ofBytes? line = some r) (htool : r.tool = "generate") :
    (s.handle t line).2.saysOk
      ↔ r.args = .null ∨ ∃ a : GenerateArgs, Wire.ofJson r.args = .ok a := by
  obtain ⟨tool, args⟩ := r
  subst htool
  have hcall : Call.ofRequest ⟨"generate", args⟩ = Call.readGenerate ⟨"generate", args⟩ := rfl
  rw [Answer.saysOk_eq, s.handle_of_request t hr, hcall]
  unfold Call.readGenerate Call.readArgs
  split
  next hnull => exact iff_of_true rfl (Or.inl hnull)
  next hsome =>
    rw [or_iff_right hsome]
    cases hread : (Wire.ofJson args : Except Mismatch GenerateArgs) with
    | ok a => exact iff_of_true rfl ⟨a, rfl⟩
    | error m => exact iff_of_false Bool.false_ne_true (by simp)

/--
**Whether a line is accepted depends on the line alone.**

Two sessions, whatever they hold and know, accept the same lines, and answer those that they refuse
with the same reason.  An append is refused for the texts that its entity lacks and for nothing
else, and neither looking for problems nor generating a script is refused because of a problem.
-/
theorem acceptance_by_line (line : ByteArray) :
    (∀ (s s' : Service) (t t' : Topology),
      (s.handle t line).2.saysOk = (s'.handle t' line).2.saysOk ∧
        ((s.handle t line).2.saysOk = false →
          (s.handle t line).2 = (s'.handle t' line).2 ∧
            (s.handle t line).2.text = (s'.handle t' line).2.text)) ∧
      ∀ (s : Service) (t : Topology) (r : Request), Request.ofBytes? line = some r →
        (∀ e : Entity, r.Appends e →
          ((s.handle t line).2.saysOk ↔ ∀ field ∈ e.requiredTexts, field.2 ≠ "")) ∧
        (r.tool = "validate" → (s.handle t line).2.saysOk) ∧
        (r.tool = "generate" → ((s.handle t line).2.saysOk
          ↔ r.args = .null ∨ ∃ a : GenerateArgs, Wire.ofJson r.args = .ok a)) := by
  refine ⟨fun s s' t t' => ⟨?_, fun hrefused => ?_⟩, fun s t r hr => ⟨?_, ?_, ?_⟩⟩
  · rw [s.saysOk_handle, s'.saysOk_handle]
  · rw [s.saysOk_handle] at hrefused
    cases hverdict : Call.verdict line with
    | none => simp [hverdict] at hrefused
    | some fault =>
        have h := Answer.eq_refused ((s.fault?_handle t line).trans hverdict)
        have h' := Answer.eq_refused ((s'.fault?_handle t' line).trans hverdict)
        rw [h, h']
        exact ⟨rfl, rfl⟩
  · exact fun e happends => s.saysOk_of_appends t hr happends
  · exact s.saysOk_of_validate t hr
  · exact s.saysOk_of_generate t hr

end Service

end NetDraft
