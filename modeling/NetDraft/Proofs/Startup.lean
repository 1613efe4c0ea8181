/-
What the program starts with.

The settings are those of the project file, and only if that file is not there they are the
defaults: a file that is there but of no use stops the program, whatever else it was told.  The
catalog is that of the command line, or else that of the settings, or else the one that comes with
the program; a file that was chosen in this way is never given up for the next one.  The same fault,
that a file is not there, is thus forgiven for the settings and fatal for a catalog.

Besides what comes out it is shown which files are looked at, because a catalog that is replaced by
another one is not to be consulted at all.
-/
import NetDraft.Proofs.Files.Paths
import NetDraft.Proofs.Files.Tree
import NetDraft.Proofs.Files.Watched
import NetDraft.Proofs.Outcome
import NetDraft.Proofs.Validation.WellFormed

namespace NetDraft

variable {σ : Type} [FileStore σ] (s : σ)

/-! ### Values in files -/

namespace FileStore

/-- The file of a path is there, can be read and has a value for its text. -/
def Reads {α : Type} [Wire α] (path : String) (value : α) : Prop :=
  leads s path = true ∧ ∃ text, reading s path = .ok text ∧ Wire.ofYaml text = .ok value

/-- Why no value is read from the file of a path. -/
inductive Fault (α : Type) [Wire α] (path : String) : LoadFault → Prop
  | missing : leads s path = false → Fault α path (.notFound path)
  | unreadable {reason : String} : leads s path = true → reading s path = .error reason →
      Fault α path (.unreadable reason)
  | undecodable {text : String} {fault : YamlFault} : leads s path = true →
      reading s path = .ok text → (Wire.ofYaml text : Except YamlFault α) = .error fault →
      Fault α path (.yaml fault)

variable {s} {α : Type} [Wire α] {path : String}

omit [FileStore σ] in
theorem readYaml_eq_error {text : String} {fault : LoadFault} :
    (readYaml text : Except LoadFault α) = .error fault ↔
      ∃ told, (Wire.ofYaml text : Except YamlFault α) = .error told ∧ fault = .yaml told :=
  Outcome.mapError_eq_error

theorem readFile_readYaml_eq_ok {value : α} :
    (found s (readFile path) >>= readYaml) = .ok value ↔ Reads s path value := by
  rw [found_readFile, Reads]
  cases leads s path with
  | false => simp [bind, Except.bind]
  | true => simp [Outcome.bind_eq_ok, Outcome.mapError_eq_ok, readYaml]

theorem readFile_readYaml_eq_error {fault : LoadFault} :
    (found s (readFile path) >>= (readYaml : String → Except LoadFault α)) = .error fault ↔
      Fault s α path fault := by
  rw [found_readFile, Outcome.bind_eq_error]
  constructor
  · intro h
    cases hleads : leads s path with
    | false =>
        rw [hleads] at h
        obtain h | ⟨_, h, -⟩ := h
        · cases h
          exact .missing hleads
        · cases h
    | true =>
        rw [hleads, if_pos rfl, Outcome.mapError_eq_error] at h
        obtain ⟨reason, hreading, rfl⟩ | ⟨text, hreading, hdecoded⟩ := h
        · exact .unreadable hleads hreading
        · obtain ⟨_, htold, rfl⟩ := readYaml_eq_error.mp hdecoded
          exact .undecodable hleads (Outcome.mapError_eq_ok.mp hreading) htold
  · rintro (hleads | ⟨hleads, hreading⟩ | ⟨hleads, hreading, hdecoded⟩)
    · rw [hleads]
      exact .inl rfl
    · rw [hleads, hreading]
      exact .inl rfl
    · rw [hleads, hreading]
      exact .inr ⟨_, rfl, readYaml_eq_error.mpr ⟨_, hdecoded, rfl⟩⟩

end FileStore

open FileStore

/-! ### Catalogs -/

namespace Catalog

/-- No kind has an entry with an empty key. -/
def KeysNonempty (c : Catalog) : Prop := ∀ kind, "" ∉ (c.table kind).keys

theorem emptyKey?_eq_none {c : Catalog} : c.emptyKey? = none ↔ c.KeysNonempty := by
  rw [emptyKey?, List.find?_eq_none]
  constructor
  · intro h kind hkey
    exact h kind (by cases kind <;> decide) (Inventory.has_eq_true.mpr hkey)
  · intro h kind _ hkey
    exact h kind (Inventory.has_eq_true.mp hkey)

theorem keysNonempty_builtin : builtin.KeysNonempty := by
  have hlists : ∀ entries ∈ [builtinDevices, builtinModules, builtinLinks],
      "" ∉ (Dict.ofList entries).keys := by
    intro entries hentries hkey
    obtain ⟨e, he, hempty⟩ := List.mem_map.mp hkey
    have hall : ∀ entries ∈ [builtinDevices, builtinModules, builtinLinks],
        ∀ e ∈ entries, e.1 ≠ "" := by decide +kernel
    exact hall entries hentries e (Dict.mem_ofList he) hempty
  intro kind
  cases kind with
  | devices => exact hlists builtinDevices (by simp)
  | modules => exact hlists builtinModules (by simp)
  | links => exact hlists builtinLinks (by simp)

/-- Why the file of a path does not give a catalog. -/
inductive Fault (path : String) : LoadFault → Prop
  | unread {fault : LoadFault} : FileStore.Fault s Catalog path fault → Fault path fault
  | emptyKey {c : Catalog} {kind : Kind} : Reads s path c → c.emptyKey? = some kind →
      Fault path (.emptyKey kind)

variable {s} {path : String}

theorem found_load : found s (load path) = do
    let c : Catalog ← found s (readFile path) >>= readYaml
    match c.emptyKey? with
    | some kind => .error (.emptyKey kind)
    | none => return c := by
  unfold load
  rw [found_bind s (keeps_readFile path), bind_assoc]
  rfl

theorem found_load_eq_ok {c : Catalog} :
    found s (load path) = .ok c ↔ Reads s path c ∧ c.KeysNonempty := by
  rw [found_load, Outcome.bind_eq_ok]
  simp only [readFile_readYaml_eq_ok, ← emptyKey?_eq_none]
  constructor
  · rintro ⟨c', hreads, hkeys⟩
    cases hkey : c'.emptyKey? with
    | some kind =>
        rw [hkey] at hkeys
        cases hkeys
    | none =>
        rw [hkey] at hkeys
        cases hkeys
        exact ⟨hreads, hkey⟩
  · rintro ⟨hreads, hkey⟩
    exact ⟨c, hreads, by rw [hkey]; rfl⟩

theorem found_load_eq_error {fault : LoadFault} :
    found s (load path) = .error fault ↔ Fault s path fault := by
  rw [found_load, Outcome.bind_eq_error]
  simp only [readFile_readYaml_eq_ok, readFile_readYaml_eq_error]
  constructor
  · rintro (h | ⟨c, hreads, hkeys⟩)
    · exact .unread h
    · cases hkey : c.emptyKey? with
      | some kind =>
          rw [hkey] at hkeys
          cases hkeys
          exact .emptyKey hreads hkey
      | none =>
          rw [hkey] at hkeys
          cases hkeys
  · rintro (h | ⟨hreads, hkey⟩)
    · exact .inl h
    · exact .inr ⟨_, hreads, by rw [hkey]⟩

end Catalog

/-! ### Settings -/

namespace Workspace

/-- The file with the settings of a project, and the directory where the paths within it start. -/
def located (path : String) : String × String :=
  if leadsToDirectory s path then (Files.join path fileName, path) else (path, Files.parent path)

/-- The settings that hold where they are kept in a file: those of the file, and the defaults only
if it is not there. -/
def Holds (file : String) (p : Project) : Prop :=
  (leads s file = false ∧ p = .default) ∨ Reads s file p

/-- The paths within the settings start one step short of their file. -/
theorem steps_located (path : String) : Files.steps (located s path).2
    = (Files.steps (located s path).1).dropLast := by
  unfold located
  cases leadsToDirectory s path with
  | false => exact Files.steps_parent path
  | true =>
      have hname : Files.steps fileName = [fileName.toList] := by decide
      show Files.steps path = (Files.steps (Files.join path fileName)).dropLast
      rw [Files.steps_join, if_neg (by decide), hname, List.dropLast_concat]

theorem isAbsolute_located (path : String) : Files.isAbsolute (located s path).2
    = (Files.isAbsolute (located s path).1 && !(Files.steps (located s path).1).isEmpty) := by
  unfold located
  cases leadsToDirectory s path with
  | false => exact Files.isAbsolute_parent path
  | true =>
      have hname : Files.steps fileName = [fileName.toList] := by decide
      show Files.isAbsolute path = (Files.isAbsolute (Files.join path fileName)
        && !(Files.steps (Files.join path fileName)).isEmpty)
      rw [Files.isAbsolute_join, Files.steps_join, if_neg (by decide), hname]
      simp [show Files.isAbsolute fileName = false by decide]

theorem found_locate (path : String) :
    found s (monadLift (locate path : StateM σ (String × String)) :
      ExceptT LoadFault (StateM σ) (String × String)) = .ok (located s path) := by
  show Except.ok ((locate path : StateM σ (String × String)).run s).1 = _
  unfold locate
  rw [run_bind]
  show Except.ok ((if leadsToDirectory s path then _ else _ : StateM σ _).run _).1 = _
  unfold located
  cases leadsToDirectory s path <;> rfl

variable {s} {path : String}

theorem found_load : found s (load path) = do
    let project ← found s (readFile (located s path).1) >>= readYaml
    return ⟨project, (located s path).2⟩ := by
  unfold load
  rw [found_bind s (.lift (keeps_locate path)), found_locate]
  show found s (readFile (located s path).1 >>= _) = _
  rw [found_bind s (keeps_readFile _), bind_assoc]
  refine bind_congr fun text => ?_
  cases (readYaml text : Except LoadFault Project) <;> rfl

theorem found_load_eq_ok {w : Workspace} : found s (load path) = .ok w ↔
    Reads s (located s path).1 w.project ∧ w.base = (located s path).2 := by
  rw [found_load, Outcome.bind_eq_ok]
  simp only [readFile_readYaml_eq_ok]
  constructor
  · rintro ⟨project, hreads, hw⟩
    cases hw
    exact ⟨hreads, rfl⟩
  · rintro ⟨hreads, hbase⟩
    exact ⟨w.project, hreads, by rw [← hbase]; rfl⟩

theorem found_load_eq_error {fault : LoadFault} : found s (load path) = .error fault ↔
    Fault s Project (located s path).1 fault := by
  rw [found_load, Outcome.bind_eq_error, readFile_readYaml_eq_error]
  refine or_iff_left ?_
  rintro ⟨_, -, h⟩
  cases h

/-- The defaults hold only for want of a file, and whatever is wrong with a file stands. -/
theorem found_loadOrDefault : found s (loadOrDefault path) =
    if leads s (located s path).1 then found s (load path)
    else .ok ⟨.default, (located s path).2⟩ := by
  unfold loadOrDefault
  rw [found_tryCatch s (keeps_loadWorkspace path)]
  cases hload : found s (load path) with
  | ok w =>
      rw [(found_load_eq_ok.mp hload).1.1]
      rfl
  | error fault =>
      cases found_load_eq_error.mp hload with
      | missing hleads =>
          rw [hleads]
          show found s (monadLift (locate path : StateM σ (String × String)) >>= _) = _
          rw [found_bind s (.lift (keeps_locate path)), found_locate]
          rfl
      | unreadable hleads | undecodable hleads =>
          rw [hleads]
          rfl

theorem found_loadOrDefault_eq_ok {w : Workspace} : found s (loadOrDefault path) = .ok w ↔
    Holds s (located s path).1 w.project ∧ w.base = (located s path).2 := by
  rw [found_loadOrDefault, Holds]
  cases hleads : leads s (located s path).1 with
  | false =>
      have hreads : ¬Reads s (located s path).1 w.project := fun h => by simp [h.1] at hleads
      obtain ⟨project, base⟩ := w
      simp [hreads, eq_comm]
  | true => simp [found_load_eq_ok]

theorem found_loadOrDefault_eq_error {fault : LoadFault} :
    found s (loadOrDefault path) = .error fault ↔
      leads s (located s path).1 = true ∧ Fault s Project (located s path).1 fault := by
  rw [found_loadOrDefault]
  cases leads s (located s path).1 with
  | false => simp
  | true => simp [found_load_eq_error]

end Workspace

/-! ### The choice of a catalog -/

namespace Catalog

/-- The catalog of the file that was chosen, or the one that comes with the program. -/
def ofChoice {m : Type → Type} [Monad m] [Files m] : Option String → ExceptT LoadFault m Catalog
  | some path => load path
  | none => return .builtin

/-- A catalog is what the choice leads to: one without an empty key, if a file was chosen. -/
def Chosen (c : Catalog) : Option String → Prop
  | some path => Reads s path c ∧ c.KeysNonempty
  | none => c = .builtin

variable {s} {choice : Option String}

theorem keeps_ofChoice : Keeps (ofChoice choice : ExceptT LoadFault (StateM σ) Catalog).run := by
  cases choice with
  | some path => exact keeps_loadCatalog path
  | none => exact .pure _

theorem found_ofChoice_eq_ok {c : Catalog} :
    found s (ofChoice choice) = .ok c ↔ c.Chosen s choice := by
  cases choice with
  | some path => exact found_load_eq_ok
  | none =>
      show Except.ok builtin = .ok c ↔ c = builtin
      rw [Except.ok.injEq, eq_comm]

theorem found_ofChoice_eq_error {fault : LoadFault} : found s (ofChoice choice) = .error fault ↔
    ∃ path, choice = some path ∧ Fault s path fault := by
  cases choice with
  | some path => simp [ofChoice, found_load_eq_error]
  | none => exact iff_of_false nofun (by simp)

theorem Chosen.keysNonempty {c : Catalog} (h : c.Chosen s choice) : c.KeysNonempty := by
  cases choice with
  | some path => exact h.2
  | none => exact h ▸ keysNonempty_builtin

end Catalog

namespace Invocation

/-- The file of the catalog, unless it is the one that comes with the program: that of the command
line, and without it that of the settings, whose path starts from a directory. -/
def catalogFile? (i : Invocation) (base : String) (p : Project) : Option String :=
  match i.catalog with
  | some path => some path
  | none => p.catalog.map (Files.join base)

theorem setup_eq (i : Invocation) {m : Type → Type} [Monad m] [Files m] :
    (i.setup : ExceptT Failure m Setup) = do
      let workspace ← ExceptT.adapt (Failure.ofLoad "Failed to load configuration")
        (Workspace.loadOrDefault i.project)
      let catalog ← ExceptT.adapt (Failure.ofLoad "Failed to load catalog")
        (Catalog.ofChoice (i.catalogFile? workspace.base workspace.project))
      return ⟨workspace.project, catalog⟩ := by
  refine bind_congr fun workspace => ?_
  unfold catalogFile? Workspace.catalog
  cases i.catalog with
  | some path => rfl
  | none => cases workspace.project.catalog <;> rfl

variable {s} {i : Invocation}

/-- The catalog of the settings stands where its path leads from the directory of their file. -/
theorem exists_catalogFile? {p : Project} {named : String} (hnone : i.catalog = none)
    (hnamed : p.catalog = some named) :
    let file := (Workspace.located s i.project).1
    ∃ path, i.catalogFile? (Workspace.located s i.project).2 p = some path ∧
      Files.steps path = (if Files.isAbsolute named then Files.steps named
        else (Files.steps file).dropLast ++ Files.steps named) ∧
      Files.isAbsolute path = (Files.isAbsolute named ||
        Files.isAbsolute file && !(Files.steps file).isEmpty) := by
  refine ⟨Files.join (Workspace.located s i.project).2 named, ?_, ?_, ?_⟩
  · rw [catalogFile?, hnone, hnamed]
    rfl
  · rw [Files.steps_join, Workspace.steps_located]
  · rw [Files.isAbsolute_join, Workspace.isAbsolute_located, Bool.or_comm]

theorem found_setup : found s i.setup = do
    let workspace ← (found s (Workspace.loadOrDefault i.project)).mapError
      (Failure.ofLoad "Failed to load configuration")
    let catalog ← (found s
      (Catalog.ofChoice (i.catalogFile? workspace.base workspace.project))).mapError
        (Failure.ofLoad "Failed to load catalog")
    return ⟨workspace.project, catalog⟩ := by
  rw [setup_eq, found_bind s (.adapt (keeps_loadOrDefault i.project) _), found_adapt]
  refine bind_congr fun workspace => ?_
  rw [found_bind s (.adapt Catalog.keeps_ofChoice _), found_adapt]
  rfl

theorem found_setup_eq_ok {setup : Setup} : found s i.setup = .ok setup ↔
    Workspace.Holds s (Workspace.located s i.project).1 setup.project ∧
      setup.catalog.Chosen s
        (i.catalogFile? (Workspace.located s i.project).2 setup.project) := by
  rw [found_setup, Outcome.bind_eq_ok]
  simp only [Outcome.mapError_eq_ok, Outcome.bind_eq_ok, Workspace.found_loadOrDefault_eq_ok,
    Catalog.found_ofChoice_eq_ok]
  constructor
  · rintro ⟨w, ⟨hholds, hbase⟩, c, hchosen, hsetup⟩
    cases hsetup
    exact ⟨hholds, hbase ▸ hchosen⟩
  · rintro ⟨hholds, hchosen⟩
    exact ⟨⟨setup.project, _⟩, ⟨hholds, rfl⟩, setup.catalog, hchosen, rfl⟩

theorem found_setup_eq_error {failure : Failure} : found s i.setup = .error failure ↔
    (∃ fault, leads s (Workspace.located s i.project).1 = true ∧
      FileStore.Fault s Project (Workspace.located s i.project).1 fault ∧
      failure = .ofLoad "Failed to load configuration" fault) ∨
    ∃ project path fault, Workspace.Holds s (Workspace.located s i.project).1 project ∧
      i.catalogFile? (Workspace.located s i.project).2 project = some path ∧
      Catalog.Fault s path fault ∧ failure = .ofLoad "Failed to load catalog" fault := by
  rw [found_setup, Outcome.bind_eq_error]
  refine or_congr ?_ ?_
  · simp only [Outcome.mapError_eq_error, Workspace.found_loadOrDefault_eq_error, and_assoc]
  · simp only [Outcome.mapError_eq_ok, Workspace.found_loadOrDefault_eq_ok]
    constructor
    · rintro ⟨w, ⟨hholds, hbase⟩, h⟩
      rw [Outcome.bind_eq_error] at h
      obtain h | ⟨_, -, h⟩ := h
      · obtain ⟨fault, hfault, rfl⟩ := Outcome.mapError_eq_error.mp h
        obtain ⟨path, hchoice, hfault⟩ := Catalog.found_ofChoice_eq_error.mp hfault
        exact ⟨w.project, path, fault, hholds, hbase ▸ hchoice, hfault, rfl⟩
      · cases h
    · rintro ⟨project, path, fault, hholds, hchoice, hfault, rfl⟩
      refine ⟨⟨project, _⟩, ⟨hholds, rfl⟩, Outcome.bind_eq_error.mpr (.inl ?_)⟩
      exact Outcome.mapError_eq_error.mpr
        ⟨fault, Catalog.found_ofChoice_eq_error.mpr ⟨path, hchoice, hfault⟩, rfl⟩

end Invocation

/-! ### What is looked at -/

namespace Mirrors

variable {s} {allowed : String → Prop} {path : String}

theorem readFile (h : allowed path) :
    Mirrors s allowed (NetDraft.readFile path : ExceptT LoadFault (StateM (Watched σ)) String).run
      (NetDraft.readFile path : ExceptT LoadFault (StateM σ) String).run := by
  refine exceptBind (.lift (.access h (keeps_isThere path))) (.lift (keeps_isThere path)) ?_
  intro found _
  cases found with
  | false => exact .pure _
  | true =>
      refine exceptBind (.lift (.access h (keeps_readText path))) (.lift (keeps_readText path)) ?_
      intro text _
      cases text <;> exact .pure _

theorem loadCatalog (h : allowed path) :
    Mirrors s allowed (Catalog.load path : ExceptT LoadFault (StateM (Watched σ)) Catalog).run
      (Catalog.load path : ExceptT LoadFault (StateM σ) Catalog).run :=
  exceptBind (readFile h) (keeps_readFile path) fun _ _ => .ofExcept _

theorem locate (h : allowed path) :
    Mirrors s allowed (Workspace.locate path : StateM (Watched σ) (String × String))
      (Workspace.locate path) := by
  refine bind (.access h (keeps_isDirectory path)) (keeps_isDirectory path) ?_
  cases ((Files.isDirectory path : StateM σ Bool).run s).1 <;> exact .pure _

theorem loadOrDefault (h : allowed path) (hfile : allowed (Workspace.located s path).1) :
    Mirrors s allowed
      (Workspace.loadOrDefault path : ExceptT LoadFault (StateM (Watched σ)) Workspace).run
      (Workspace.loadOrDefault path : ExceptT LoadFault (StateM σ) Workspace).run := by
  refine tryCatch ?_ (keeps_loadWorkspace path) fun fault => ?_
  · refine exceptBind (.lift (locate h)) (.lift (keeps_locate path)) fun located hlocated => ?_
    rw [Workspace.found_locate] at hlocated
    cases hlocated
    refine exceptBind (readFile hfile) (keeps_readFile _) fun text _ => ?_
    exact exceptBind (.ofExcept _) (.ofExcept _) fun project _ => .pure _
  · cases fault with
    | notFound _ =>
        exact exceptBind (.lift (locate h)) (.lift (keeps_locate path)) fun located _ => .pure _
    | yaml _ | emptyKey _ | entry _ | unreadable _ => exact .pure _

/-- A start looks at the path of the project, at its file and at the catalog that was chosen. -/
theorem setup (i : Invocation) :
    Mirrors s (fun path => path = i.project ∨ path = (Workspace.located s i.project).1 ∨
        ∃ project, Workspace.Holds s (Workspace.located s i.project).1 project ∧
          i.catalogFile? (Workspace.located s i.project).2 project = some path)
      (i.setup : ExceptT Failure (StateM (Watched σ)) Setup).run
      (i.setup : ExceptT Failure (StateM σ) Setup).run := by
  rw [i.setup_eq, i.setup_eq]
  refine exceptBind (.adapt (loadOrDefault (.inl rfl) (.inr (.inl rfl))) _)
    (.adapt (keeps_loadOrDefault i.project) _) fun w hw => ?_
  rw [found_adapt, Outcome.mapError_eq_ok, Workspace.found_loadOrDefault_eq_ok] at hw
  obtain ⟨hholds, hbase⟩ := hw
  refine exceptBind (.adapt ?_ _) (.adapt Catalog.keeps_ofChoice _) fun c _ => .pure _
  cases hchoice : i.catalogFile? w.base w.project with
  | some path => exact loadCatalog (.inr (.inr ⟨w.project, hholds, hbase ▸ hchoice⟩))
  | none => exact .pure _

end Mirrors

/-! ### Starting -/

/--
**The program starts with the settings and the catalog that were chosen, or not at all.**

The settings are the defaults if the project file is not there and otherwise what the file says, and
the catalog is what the choice leads to. A start fails exactly if the project file is there and of
no use, whatever the choice of a catalog, or if the file that was chosen gives no catalog, be it
only because it is not there. No catalog that a program starts with has an empty key. A catalog that
the settings name is looked for from the directory of their file, unless its path begins at the
root. And nothing is looked at but the path of the project, the project file and the file that was
chosen, so that a catalog of the command line keeps the one of the settings from being consulted.
-/
theorem Invocation.setup_selects (s : σ) (i : Invocation) :
    let file := (Workspace.located s i.project).1
    let base := (Workspace.located s i.project).2
    (∀ setup, found s i.setup = .ok setup ↔ Workspace.Holds s file setup.project ∧
      setup.catalog.Chosen s (i.catalogFile? base setup.project)) ∧
    (∀ failure, found s i.setup = .error failure ↔
      (∃ fault, leads s file = true ∧ FileStore.Fault s Project file fault ∧
        failure = .ofLoad "Failed to load configuration" fault) ∨
      ∃ project path fault, Workspace.Holds s file project ∧
        i.catalogFile? base project = some path ∧ Catalog.Fault s path fault ∧
        failure = .ofLoad "Failed to load catalog" fault) ∧
    (∀ setup, found s i.setup = .ok setup → setup.catalog.KeysNonempty) ∧
    (∀ project named, i.catalog = none → project.catalog = some named →
      ∃ path, i.catalogFile? base project = some path ∧
        Files.steps path = (if Files.isAbsolute named then Files.steps named
          else (Files.steps file).dropLast ++ Files.steps named) ∧
        Files.isAbsolute path = (Files.isAbsolute named ||
          Files.isAbsolute file && !(Files.steps file).isEmpty)) ∧
    ∀ seen, ∃ looks, (i.setup : ExceptT Failure (StateM (Watched σ)) Setup).run.run ⟨s, seen⟩
        = (found s i.setup, ⟨s, seen ++ looks⟩) ∧
      ∀ path ∈ looks, path = i.project ∨ path = file ∨
        ∃ project, Workspace.Holds s file project ∧ i.catalogFile? base project = some path :=
  ⟨fun _ => found_setup_eq_ok, fun _ => found_setup_eq_error,
    fun _ h => (found_setup_eq_ok.mp h).2.keysNonempty,
    fun _ _ hnone hnamed => exists_catalogFile? hnone hnamed, Mirrors.setup i⟩

/-- The settings in a directory name a catalog that is not there, and the command line another one:
nobody notices, because only the other one is looked at, first whether it is there and then for its
text. -/
example : ((Invocation.setup ⟨"lab", some "own.yaml", .serve⟩ :
    ExceptT Failure (StateM (Watched FileTree)) Setup).run.run
      ⟨(FileTree.empty.add "lab/topoforge.yaml" "catalog: absent.yaml\n".toUTF8).add "own.yaml"
        "devices:\n  R1:\n    category: router\n".toUTF8, []⟩).2.seen
    = ["lab", "lab/topoforge.yaml", "lab/topoforge.yaml", "own.yaml", "own.yaml"] := by
  decide +kernel

end NetDraft
