/-
Files that are watched.

Every access to watched files is written down with its path, so that one can tell of a file not only
that it makes no difference but that nobody looked at it.  A computation on watched files mirrors
the same computation on the files themselves: it finds the same and leaves the files as they are,
and the paths that it adds to those seen are among the ones that it may look at.
-/
import NetDraft.Proofs.Files.Store

namespace NetDraft

/-- Files with the paths that were accessed, the first one first. -/
structure Watched (σ : Type) where
  files : σ
  seen : List String

namespace Watched

variable {σ : Type}

/-- An access to a path, which is written down. -/
def access {α : Type} (path : String) (x : StateM σ α) : StateM (Watched σ) α := fun w =>
  ((x.run w.files).1, ⟨(x.run w.files).2, w.seen ++ [path]⟩)

instance [Files (StateM σ)] : Files (StateM (Watched σ)) where
  isDirectory path := access path (Files.isDirectory path)
  isThere path := access path (Files.isThere path)
  readText path := access path (Files.readText path)
  writeText path text := access path (Files.writeText path text)

end Watched

/-- A computation on watched files finds what another one finds in the files and leaves them as
they are, with a look at none but the allowed paths. -/
def Mirrors {σ α : Type} (s : σ) (allowed : String → Prop) (x : StateM (Watched σ) α)
    (y : StateM σ α) : Prop :=
  ∀ seen, ∃ looks, x.run ⟨s, seen⟩ = ((y.run s).1, ⟨s, seen ++ looks⟩) ∧
    ∀ path ∈ looks, allowed path

namespace Mirrors

variable {σ ε ε' α β : Type} {s : σ} {allowed : String → Prop}

theorem pure (a : α) : Mirrors s allowed (Pure.pure a) (Pure.pure a) :=
  fun seen => ⟨[], by rw [List.append_nil]; rfl, by simp⟩

theorem access {path : String} {y : StateM σ α} (hpath : allowed path) (hy : Keeps y) :
    Mirrors s allowed (Watched.access path y) y := by
  refine fun seen => ⟨[path], ?_, by simpa using hpath⟩
  show ((y.run s).1, Watched.mk (y.run s).2 (seen ++ [path])) = _
  rw [hy]

theorem bind {x : StateM (Watched σ) α} {y : StateM σ α} {f : α → StateM (Watched σ) β}
    {g : α → StateM σ β} (hx : Mirrors s allowed x y) (hy : Keeps y)
    (hf : Mirrors s allowed (f (y.run s).1) (g (y.run s).1)) :
    Mirrors s allowed (x >>= f) (y >>= g) := by
  intro seen
  obtain ⟨first, hfirst, hallowed⟩ := hx seen
  obtain ⟨next, hnext, hallowed'⟩ := hf (seen ++ first)
  refine ⟨first ++ next, ?_, List.forall_mem_append.mpr ⟨hallowed, hallowed'⟩⟩
  rw [run_bind, run_bind, hfirst, hy, hnext, List.append_assoc]

theorem map {x : StateM (Watched σ) α} {y : StateM σ α} (h : Mirrors s allowed x y) (f : α → β) :
    Mirrors s allowed (f <$> x) (f <$> y) := by
  intro seen
  obtain ⟨looks, hlooks, hallowed⟩ := h seen
  exact ⟨looks, by rw [StateT.run_map, StateT.run_map, hlooks]; rfl, hallowed⟩

theorem lift {x : StateM (Watched σ) α} {y : StateM σ α} (h : Mirrors s allowed x y) :
    Mirrors s allowed (monadLift x : ExceptT ε (StateM (Watched σ)) α).run
      (monadLift y : ExceptT ε (StateM σ) α).run := h.map Except.ok

theorem exceptBind {x : ExceptT ε (StateM (Watched σ)) α} {y : ExceptT ε (StateM σ) α}
    {f : α → ExceptT ε (StateM (Watched σ)) β} {g : α → ExceptT ε (StateM σ) β}
    (hx : Mirrors s allowed x.run y.run) (hy : Keeps y.run)
    (hf : ∀ a, found s y = .ok a → Mirrors s allowed (f a).run (g a).run) :
    Mirrors s allowed (x >>= f).run (y >>= g).run := by
  rw [ExceptT.run_bind, ExceptT.run_bind]
  refine bind hx hy ?_
  cases hfound : (y.run.run s).1 with
  | error fault => exact pure _
  | ok a => exact hf a hfound

theorem adapt {x : ExceptT ε (StateM (Watched σ)) α} {y : ExceptT ε (StateM σ) α}
    (h : Mirrors s allowed x.run y.run) (f : ε → ε') :
    Mirrors s allowed (ExceptT.adapt f x).run (ExceptT.adapt f y).run := h.map (Except.mapError f)

theorem tryCatch {x : ExceptT ε (StateM (Watched σ)) α} {y : ExceptT ε (StateM σ) α}
    {handle : ε → ExceptT ε (StateM (Watched σ)) α} {handle' : ε → ExceptT ε (StateM σ) α}
    (hx : Mirrors s allowed x.run y.run) (hy : Keeps y.run)
    (hhandle : ∀ fault, Mirrors s allowed (handle fault).run (handle' fault).run) :
    Mirrors s allowed (MonadExcept.tryCatch x handle).run (MonadExcept.tryCatch y handle').run := by
  rw [ExceptT.run_tryCatch, ExceptT.run_tryCatch]
  refine bind hx hy ?_
  cases (y.run.run s).1 with
  | error fault => exact hhandle fault
  | ok a => exact pure _

theorem ofExcept (x : Except ε α) :
    Mirrors s allowed (liftM x : ExceptT ε (StateM (Watched σ)) α).run
      (liftM x : ExceptT ε (StateM σ) α).run := pure _

end Mirrors

end NetDraft
