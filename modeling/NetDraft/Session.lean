/-
Sessions: a topology that is built up by requests.

A session is a topology, and a service says how requests act on it.  Requests that are turned down
leave the topology as it is.
-/
import NetDraft.Compilation
import NetDraft.Document
import NetDraft.Session.Call

namespace NetDraft

/-- What all requests of a session have in common. -/
structure Service where
  inventory : Inventory
  rules : Rules
  /-- Whether scripts are validated if nothing is said about it. -/
  validate : Bool

/-- The answer to a request. -/
inductive Answer where
  | done
  | result (value : Json)
  | refused (fault : CallFault)

namespace Answer

/-- The answer as a JSON value. -/
def toJson : Answer → Json
  | done => .object [("ok", .bool true)]
  | result value => .object [("ok", .bool true), ("result", value)]
  | refused fault => .object [("ok", .bool false), ("error", .string fault.message)]

/-- The answer as text, with the keys of every object in ascending order. -/
def text (a : Answer) : String := a.toJson.sortKeys.compact

theorem text_done : done.text = "\x7b\"ok\":true\x7d" := by rfl

theorem text_result (value : Json) : (result value).text
    = "\x7b\"ok\":true,\"result\":" ++ value.sortKeys.compact ++ "\x7d" := by
  have hsorted : (result value).toJson.sortKeys
      = .object [("ok", .bool true), ("result", value.sortKeys)] := rfl
  refine String.toList_inj.mp ?_
  rw [text, hsorted]
  simp [Json.compact, Json.chars, Json.memberChars, Text.joined, Text.quotedChars, Text.escape,
    Text.escapeChar]

theorem text_refused (fault : CallFault) : (refused fault).text
    = "\x7b\"error\":" ++ Text.quoted fault.message ++ ",\"ok\":false\x7d" := by
  have hsorted : (refused fault).toJson.sortKeys
      = .object [("error", .string fault.message), ("ok", .bool false)] := rfl
  refine String.toList_inj.mp ?_
  rw [text, hsorted]
  simp [Json.compact, Json.chars, Json.memberChars, Text.joined, Text.quotedChars, Text.quoted,
    Text.escape, Text.escapeChar]

/-- Whether the request was accepted. -/
def isOk : Answer → Bool
  | refused _ => false
  | _ => true

end Answer

/-- The result of generating a script as a JSON value. -/
def Compilation.toJson : Compilation → Json
  | .script s => .object [("statements", .string s.text)]
  | .invalid problems =>
    .object [("valid", .bool false), ("errors", .array (problems.map .string))]

namespace Service

/-- Performs a call that was accepted. -/
def perform (s : Service) (t : Topology) : Call → Topology × Answer
  | .reset => (.empty, .done)
  | .append e =>
    match t.append e with
    | .ok t => (t, .done)
    | .error fault => (t, .refused (.emptyField fault))
  | .validate => (t, .result (.array ((t.validate s.inventory s.rules).map .string)))
  | .generate withValidation =>
    (t, .result (t.compile s.inventory (withValidation.getD s.validate) s.rules).toJson)
  | .list kind limit startsWith =>
    match s.inventory.list? kind limit startsWith with
    | some listing => (t, .result listing.toJson)
    | none => (t, .refused (.limit limit))
  | .summarize => (t, .result t.summary.toJson)

/-- Performs a call, or answers why there is none. -/
def answer (s : Service) (t : Topology) : Except CallFault Call → Topology × Answer
  | .ok call => s.perform t call
  | .error fault => (t, .refused fault)

/-- Handles one line of bytes. -/
def handle (s : Service) (t : Topology) (line : ByteArray) : Topology × Answer :=
  s.answer t (Call.ofBytes line)

/-- Handles lines one after the other. -/
def handleAll (s : Service) (t : Topology) : List ByteArray → Topology × List Answer
  | [] => (t, [])
  | line :: rest =>
    let (t, a) := s.handle t line
    let (t, answers) := s.handleAll t rest
    (t, a :: answers)

end Service

end NetDraft
