/-
Files that are kept in a state.

Of a store of files only this is known: to look at a path changes nothing, and a write that
succeeds gives the file to which its path leads a new text and changes no other file.  A write that
fails may leave anything behind.  Whatever is loaded is loaded by looks alone, so that loading
leaves every file as it is.
-/
import NetDraft.Program

namespace NetDraft

/-! ### Computations that keep the state -/

/-- What a computation gives in a state. -/
def found {σ ε α : Type} (s : σ) (x : ExceptT ε (StateM σ) α) : Except ε α := (x.run.run s).1

theorem run_bind {σ α β : Type} (x : StateM σ α) (f : α → StateM σ β) (s : σ) :
    (x >>= f).run s = (f (x.run s).1).run (x.run s).2 := rfl

/-- The state is the same afterwards. -/
def Keeps {σ α : Type} (x : StateM σ α) : Prop := ∀ s, (x.run s).2 = s

namespace Keeps

variable {σ ε ε' α β : Type}

theorem run_eq {x : ExceptT ε (StateM σ) α} (h : Keeps x.run) (s : σ) :
    x.run.run s = (found s x, s) := Prod.ext rfl (h s)

theorem pure (a : α) : Keeps (Pure.pure a : StateM σ α) := fun _ => rfl

theorem bind {x : StateM σ α} {f : α → StateM σ β} (hx : Keeps x) (hf : ∀ a, Keeps (f a)) :
    Keeps (x >>= f) := by
  intro s
  rw [run_bind, hf, hx]

theorem lift {x : StateM σ α} (h : Keeps x) : Keeps (monadLift x : ExceptT ε (StateM σ) α).run :=
  bind h fun _ => pure _

theorem exceptBind {x : ExceptT ε (StateM σ) α} {f : α → ExceptT ε (StateM σ) β}
    (hx : Keeps x.run) (hf : ∀ a, Keeps (f a).run) : Keeps (x >>= f).run := by
  rw [ExceptT.run_bind]
  refine bind hx fun result => ?_
  cases result with
  | error fault => exact pure _
  | ok a => exact hf a

theorem adapt {x : ExceptT ε (StateM σ) α} (h : Keeps x.run) (f : ε → ε') :
    Keeps (ExceptT.adapt f x).run := bind h fun _ => pure _

theorem tryCatch {x : ExceptT ε (StateM σ) α} {handle : ε → ExceptT ε (StateM σ) α}
    (hx : Keeps x.run) (hhandle : ∀ fault, Keeps (handle fault).run) :
    Keeps (MonadExcept.tryCatch x handle).run := by
  rw [ExceptT.run_tryCatch]
  refine bind hx fun result => ?_
  cases result with
  | error fault => exact hhandle fault
  | ok a => exact pure _

theorem ofExcept (x : Except ε α) : Keeps (liftM x : ExceptT ε (StateM σ) α).run := pure _

end Keeps

section

variable {σ ε ε' α β : Type} (s : σ)

theorem found_bind {x : ExceptT ε (StateM σ) α} (hx : Keeps x.run)
    (f : α → ExceptT ε (StateM σ) β) :
    found s (x >>= f) = found s x >>= fun a => found s (f a) := by
  unfold found
  rw [ExceptT.run_bind, run_bind, hx]
  cases (x.run.run s).1 <;> rfl

theorem found_adapt (x : ExceptT ε (StateM σ) α) (f : ε → ε') :
    found s (ExceptT.adapt f x) = (found s x).mapError f := by
  unfold found
  rw [ExceptT.run_adapt, StateT.run_map]
  rfl

theorem found_tryCatch {x : ExceptT ε (StateM σ) α} (hx : Keeps x.run)
    (handle : ε → ExceptT ε (StateM σ) α) :
    found s (tryCatch x handle) = tryCatch (found s x) fun fault => found s (handle fault) := by
  unfold found
  rw [ExceptT.run_tryCatch, run_bind, hx]
  cases (x.run.run s).1 <;> rfl

end

/-! ### Stores -/

/-- Files kept in a state. -/
class FileStore (σ : Type) extends Files (StateM σ) where
  /-- Where files can be. -/
  Place : Type
  /-- The place of the file to which a path leads, if it leads to one. -/
  place? : σ → String → Option Place
  /-- The bytes of the file at a place, if there is one. -/
  contents : σ → Place → Option ByteArray
  keeps_isDirectory : ∀ path, Keeps (isDirectory path)
  keeps_isThere : ∀ path, Keeps (isThere path)
  keeps_readText : ∀ path, Keeps (readText path)
  /-- A text that was written is all that the file holds, and the other files are as before. -/
  writeText_eq_ok : ∀ path text s s', (writeText path text).run s = (.ok (), s') →
    ∃ place, place? s' path = some place ∧ contents s' place = some text.toUTF8 ∧
      ∀ other, other ≠ place → contents s' other = contents s other

namespace FileStore

variable {σ : Type} [FileStore σ]

/-- What comes of writing a text to a file, and what is there afterwards. -/
def write (s : σ) (path text : String) : Except String Unit × σ :=
  (Files.writeText path text : StateM σ (Except String Unit)).run s

/-- The file of a path has come to hold the bytes, and all others hold what they held. -/
def Wrote (s s' : σ) (path : String) (bytes : ByteArray) : Prop :=
  ∃ place, place? s' path = some place ∧ contents s' place = some bytes ∧
    ∀ other, other ≠ place → contents s' other = contents s other

/-! ### Loading -/

theorem keeps_readFile (path : String) :
    Keeps (readFile path : ExceptT LoadFault (StateM σ) String).run := by
  refine .exceptBind (.lift (keeps_isThere path)) fun found => ?_
  cases found with
  | false => exact .pure _
  | true =>
      refine .exceptBind (.lift (keeps_readText path)) fun text => ?_
      cases text <;> exact .pure _

theorem keeps_loadTopology (path : String) :
    Keeps (Topology.load path : ExceptT LoadFault (StateM σ) Topology).run :=
  .exceptBind (keeps_readFile path) fun _ => Keeps.ofExcept _

theorem keeps_loadCatalog (path : String) :
    Keeps (Catalog.load path : ExceptT LoadFault (StateM σ) Catalog).run :=
  .exceptBind (keeps_readFile path) fun _ => Keeps.ofExcept _

theorem keeps_locate (path : String) :
    Keeps (Workspace.locate path : StateM σ (String × String)) := by
  refine .bind (keeps_isDirectory path) fun found => ?_
  cases found <;> exact .pure _

theorem keeps_loadWorkspace (path : String) :
    Keeps (Workspace.load path : ExceptT LoadFault (StateM σ) Workspace).run := by
  refine .exceptBind (.lift (keeps_locate path)) fun located => ?_
  refine .exceptBind (keeps_readFile located.1) fun text => ?_
  exact .exceptBind (Keeps.ofExcept _) fun project => .pure _

theorem keeps_loadOrDefault (path : String) :
    Keeps (Workspace.loadOrDefault path : ExceptT LoadFault (StateM σ) Workspace).run := by
  refine .tryCatch (keeps_loadWorkspace path) fun fault => ?_
  cases fault with
  | notFound _ => exact .exceptBind (.lift (keeps_locate path)) fun located => .pure _
  | yaml _ | emptyKey _ | entry _ | unreadable _ => exact .pure _

/-- **To load the project and the catalog leaves every file as it is.** -/
theorem keeps_setup (i : Invocation) :
    Keeps (i.setup : ExceptT Failure (StateM σ) Setup).run := by
  refine .exceptBind (.adapt (keeps_loadOrDefault i.project) _) fun workspace => ?_
  refine .exceptBind (.adapt ?_ _) fun catalog => .pure _
  cases i.catalog with
  | some path => exact keeps_loadCatalog path
  | none =>
      show Keeps (Workspace.catalog workspace : ExceptT LoadFault (StateM σ) Catalog).run
      unfold Workspace.catalog
      cases workspace.project.catalog with
      | some path => exact keeps_loadCatalog _
      | none => exact .pure _

/-! ### What looks find -/

variable (s : σ) (path : String)

/-- Whether a path leads to a directory. -/
def leadsToDirectory : Bool := ((Files.isDirectory path : StateM σ Bool).run s).1

/-- Whether a path leads to a file or a directory. -/
def leads : Bool := ((Files.isThere path : StateM σ Bool).run s).1

/-- The text of the file to which a path leads, or the reason why it cannot be read. -/
def reading : Except String String :=
  ((Files.readText path : StateM σ (Except String String)).run s).1

theorem found_readFile : found s (readFile path) =
    if leads s path then (reading s path).mapError .unreadable else .error (.notFound path) := by
  have hthere : found s (monadLift (Files.isThere path : StateM σ Bool) :
      ExceptT LoadFault (StateM σ) Bool) = .ok (leads s path) := rfl
  have hread : found s (monadLift (Files.readText path : StateM σ (Except String String)) :
      ExceptT LoadFault (StateM σ) (Except String String)) = .ok (reading s path) := rfl
  unfold readFile
  rw [found_bind s (.lift (keeps_isThere path)), hthere]
  cases leads s path with
  | false => rfl
  | true =>
      show found s (monadLift (Files.readText path : StateM σ (Except String String)) >>= _) = _
      rw [found_bind s (.lift (keeps_readText path)), hread]
      cases reading s path <;> rfl

end FileStore

end NetDraft
