/-
Calls: what a request asks for.
-/
import NetDraft.Catalog.Wire
import NetDraft.Entity.Wire
import NetDraft.Session.Request

namespace NetDraft

/-- Arguments of a listing. -/
structure ListArgs where
  kind : Kind
  limit : Word64
  startsWith : String

/-- How many entries a listing shows if nothing is said about it. -/
def defaultLimit : Word64 := ⟨50, by decide⟩

instance : Wire ListArgs where
  shape := .record "ListCatalogArgs" true
    (.required "kind" (Wire.shape Kind) (.defaulted "limit" .integer
      (.defaulted "startsWith" .text .nil)))
  ofVal := fun (kind, limit, startsWith, ()) =>
    ⟨Wire.ofVal kind, Option.getD limit defaultLimit, Option.getD startsWith ""⟩
  toVal a := (Wire.toVal a.kind, some a.limit, some a.startsWith, ())
  ofVal_toVal
    | ⟨kind, _, _⟩ => by cases kind <;> rfl

/-- Arguments of generating a script. -/
structure GenerateArgs where
  withValidation : Option Bool

instance : Wire GenerateArgs where
  shape := .record "GenerateArgs" true (.required "withValidation" (.optional .flag) .nil)
  ofVal := fun (withValidation, ()) => ⟨withValidation⟩
  toVal a := (a.withValidation, ())
  ofVal_toVal _ := rfl

/-- What can be asked of a session. -/
inductive Call where
  | reset
  | append (e : Entity)
  | validate
  | generate (withValidation : Option Bool)
  | list (kind : Kind) (limit : Int) (startsWith : String)
  | summarize

/-- Why a request is turned down. -/
inductive CallFault where
  | notUtf8
  | malformed (report : String)
  | unknownTool (tool : String)
  | arguments (tool : String) (mismatch : Mismatch)
  | emptyField (fault : EmptyField)
  | limit (asked : Int)

/-- The words in which the fault is reported. -/
def CallFault.message : CallFault → String
  | notUtf8 => "request is not valid UTF-8"
  | malformed report => "malformed request: " ++ report
  | unknownTool tool => "unknown tool '" ++ tool ++ "'"
  | arguments tool mismatch =>
    "invalid arguments for " ++ tool ++ ": " ++ mismatch.message Json.wording
  | emptyField fault => fault.message
  | limit asked => Inventory.limitMessage asked

namespace Call

/-- Reads the arguments of a tool. -/
def readArgs {α : Type} [Wire α] (r : Request) : Except CallFault α :=
  (Wire.ofJson r.args).mapError (.arguments r.tool)

/-- Reads an entity to be appended. -/
def readEntity {α : Type} [Wire α] (make : α → Entity) (r : Request) : Except CallFault Call := do
  return .append (make (← readArgs r))

/-- Reads the arguments of generating a script, which may be null. -/
def readGenerate (r : Request) : Except CallFault Call := do
  match r.args with
  | .null => return .generate none
  | _ =>
    let a : GenerateArgs ← readArgs r
    return .generate a.withValidation

/-- Reads the arguments of a listing. -/
def readList (r : Request) : Except CallFault Call := do
  let a : ListArgs ← readArgs r
  return .list a.kind a.limit.val a.startsWith

/-- The call that a request makes. -/
def ofRequest (r : Request) : Except CallFault Call :=
  match r.tool with
  | "reset" => .ok .reset
  | "appendDevice" => readEntity .device r
  | "appendModule" => readEntity .hardware r
  | "appendLink" => readEntity .link r
  | "appendPcIpConfig" => readEntity .host r
  | "appendIosConfig" => readEntity .router r
  | "validate" => .ok .validate
  | "generate" => readGenerate r
  | "listCatalog" => readList r
  | "summarize" => .ok .summarize
  | tool => .error (.unknownTool tool)

/-- The call that a line makes. -/
def ofLine (line : String) : Except CallFault Call := do
  ofRequest (← (Request.ofLine line).mapError .malformed)

/-- The call that a line of bytes makes. -/
def ofBytes (line : ByteArray) : Except CallFault Call :=
  match String.fromUTF8? line with
  | some line => ofLine line
  | none => .error .notUtf8

end Call

end NetDraft
