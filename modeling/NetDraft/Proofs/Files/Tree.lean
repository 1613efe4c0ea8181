/-
A tree of files in memory keeps files in the sense of `FileStore`.

What has to be shown is that a path leads to the file that was written to it.  The directories on
the way are still where they were, because no directory gives way to a file: a path goes on to the
place of a file, or to a place where nothing is, only from the directory that is to hold the file.
-/
import NetDraft.Files.Tree
import NetDraft.Proofs.Files.Store
import Mathlib.Data.List.Basic
import Mathlib.Data.List.Induction

namespace NetDraft.FileTree

variable {t : FileTree} {place : List (List Char)}

/-! ### What stands at the places -/

theorem entry?_set_self (entry : Entry) (h : t.entry? place ≠ some .directory) :
    entry? (t.set place entry) place = some entry := by
  have hroot : place ≠ [] := by
    rintro rfl
    exact h rfl
  simp [set, entry?, hroot]

theorem entry?_set_of_ne (entry : Entry) {other : List (List Char)} (h : other ≠ place) :
    entry? (t.set place entry) other = entry? t other := by
  have hfind : (t.entries.filter fun e => e.1 ≠ place).find? (fun e => e.1 = other) =
      t.entries.find? fun e => e.1 = other := by
    rw [List.find?_filter]
    congr 1
    funext e
    by_cases he : e.1 = other <;> simp [he, h]
  simp only [set, entry?, List.find?_cons, decide_eq_false h.symm, hfind]

/-- The bytes of the file at a place, if a file stands there. -/
def contents (t : FileTree) (place : List (List Char)) : Option ByteArray :=
  match t.entry? place with
  | some (.file contents) => some contents
  | some .directory | none => none

/-! ### Steps of a path -/

namespace Target

/-- The place of the file to which a path leads. -/
def file? : Target → Option (List (List Char))
  | .file place _ => some place
  | .directory _ | .missing _ | .lost | .blocked => none

/-- The place where a file is or may be put. -/
def room? : Target → Option (List (List Char))
  | .file place _ => some place
  | .missing place => place
  | .directory _ | .lost | .blocked => none

/-- Where a path leads that reaches a place of the tree. -/
def ofEntry (place : List (List Char)) : Option Entry → Target
  | some (.file contents) => .file place contents
  | some .directory => .directory (some place)
  | none => .missing (some place)

theorem ofEntry_eq_directory {entry : Option Entry} {next : Option (List (List Char))}
    (h : ofEntry place entry = .directory next) : entry = some .directory := by
  cases entry with
  | none => cases h
  | some entry =>
      cases entry with
      | file => cases h
      | directory => rfl

theorem room?_ofEntry {entry : Option Entry} {room : List (List Char)}
    (h : (ofEntry place entry).room? = some room) : room = place ∧ entry ≠ some .directory := by
  cases entry with
  | none => exact ⟨(Option.some.inj h).symm, nofun⟩
  | some entry =>
      cases entry with
      | file => exact ⟨(Option.some.inj h).symm, nofun⟩
      | directory => cases h

end Target

/-- A step leads the same way in all trees, and not to a place for a file, or it reaches the place
below a directory. -/
theorem step_cases (x : Target) (name : List Char) :
    (∃ next : Target, next.room? = none ∧ ∀ t : FileTree, t.step x name = next) ∨
      ∃ through, ∀ t : FileTree,
        t.step x name = .ofEntry (through ++ [name]) (t.entry? (through ++ [name])) := by
  cases x with
  | file _ _ => exact .inl ⟨.blocked, rfl, fun _ => rfl⟩
  | missing _ | lost => exact .inl ⟨.lost, rfl, fun _ => rfl⟩
  | blocked => exact .inl ⟨.blocked, rfl, fun _ => rfl⟩
  | directory through =>
      by_cases hidle : Files.isIdle name
      · exact .inl ⟨.directory through, rfl, fun _ => if_pos hidle⟩
      by_cases hup : name = ['.', '.']
      · exact .inl ⟨_, rfl, fun _ => (if_neg hidle).trans (if_pos hup)⟩
      cases through with
      | none => exact .inl ⟨.missing none, rfl, fun _ => (if_neg hidle).trans (if_neg hup)⟩
      | some through =>
          refine .inr ⟨through, fun t => (if_neg hidle).trans ((if_neg hup).trans ?_)⟩
          dsimp only
          rcases t.entry? (through ++ [name]) with - | - | - <;> rfl

/-- A step to a directory is not changed by a file, if no directory gives way to it. -/
theorem step_set_of_directory {x : Target} {name : List Char} {next : Option (List (List Char))}
    (contents : ByteArray) (hplace : t.entry? place ≠ some .directory)
    (h : t.step x name = .directory next) :
    (t.set place (.file contents)).step x name = .directory next := by
  obtain ⟨_, -, hsame⟩ | ⟨through, hstep⟩ := step_cases x name
  · rw [hsame, ← hsame t, h]
  · rw [hstep] at h ⊢
    have hne : through ++ [name] ≠ place := by
      rintro rfl
      exact hplace (Target.ofEntry_eq_directory h)
    rw [entry?_set_of_ne _ hne, h]

/-- A step to a place for a file finds no directory there, and leads to the file that is put
there. -/
theorem step_set_of_room {x : Target} {name : List Char} (contents : ByteArray)
    (h : (t.step x name).room? = some place) :
    t.entry? place ≠ some .directory ∧
      (t.set place (.file contents)).step x name = .file place contents := by
  obtain ⟨_, hroom, hsame⟩ | ⟨through, hstep⟩ := step_cases x name
  · rw [hsame, hroom] at h
    cases h
  · rw [hstep] at h ⊢
    obtain ⟨rfl, hfree⟩ := Target.room?_ofEntry h
    exact ⟨hfree, by rw [entry?_set_self _ hfree]; rfl⟩

/-! ### Whole paths -/

/-- A way to a directory is not changed by a file, as long as no directory gives way to it. -/
theorem foldl_step_set {x : Target} {names : List (List Char)} {next : Option (List (List Char))}
    (contents : ByteArray) (hplace : t.entry? place ≠ some .directory)
    (h : names.foldl t.step x = .directory next) :
    names.foldl (t.set place (.file contents)).step x = .directory next := by
  induction names using List.reverseRecOn generalizing next with
  | nil => exact h
  | append_singleton names name ih =>
      rw [List.foldl_concat] at h ⊢
      cases hthrough : names.foldl t.step x with
      | file _ _ | missing _ | lost | blocked =>
          rw [hthrough] at h
          cases h
      | directory through =>
          rw [ih hthrough, ← hthrough]
          exact step_set_of_directory contents hplace h

/-- **A path that leads to a place for a file leads to the file that is put there.** -/
theorem follow_set {path : String} (contents : ByteArray)
    (h : (t.follow path).room? = some place) :
    t.entry? place ≠ some .directory ∧
      (t.set place (.file contents)).follow path = .file place contents := by
  unfold follow at h ⊢
  by_cases hempty : path.isEmpty
  · rw [if_pos hempty] at h
    cases h
  rw [if_neg hempty] at h ⊢
  generalize Files.names path = names at h ⊢
  cases names using List.reverseRecOn with
  | nil => cases h
  | append_singleton names name =>
      rw [List.foldl_concat] at h ⊢
      obtain ⟨hfree, hstep⟩ := step_set_of_room contents h
      cases hthrough : names.foldl t.step (.directory _) with
      | file _ _ | missing _ | lost | blocked =>
          rw [hthrough] at h
          cases h
      | directory through =>
          exact ⟨hfree, by rw [foldl_step_set contents hfree hthrough, ← hthrough, hstep]⟩

/-- A text that is written is put at the place to which the path leads. -/
theorem writeText_eq_ok {t' : FileTree} {path text : String} (h : t.writeText path text = .ok t') :
    ∃ place, (t.follow path).room? = some place ∧ t' = t.set place (.file text.toUTF8) := by
  unfold writeText at h
  by_cases hbare : withoutEnd path = path
  · rw [hbare] at h
    cases hfollow : t.follow path with
    | directory | lost | blocked => simp [hfollow] at h
    | file place _ =>
        simp only [hfollow, if_pos, Except.ok.injEq] at h
        exact ⟨place, rfl, h.symm⟩
    | missing place =>
        cases place with
        | none => simp [hfollow] at h
        | some place =>
            simp only [hfollow, if_pos, Except.ok.injEq] at h
            exact ⟨place, rfl, h.symm⟩
  · cases hfollow : t.follow (withoutEnd path) with
    | directory | lost | blocked | file => simp [hfollow, hbare] at h
    | missing place => cases place <;> simp [hfollow, hbare] at h

theorem run_writeText (t : FileTree) (path text : String) :
    (Files.writeText path text : StateM FileTree (Except String Unit)).run t =
      match t.writeText path text with
      | .ok written => (.ok (), written)
      | .error reason => (.error reason, t) := by
  simp only [Files.writeText, StateT.run_bind, StateT.run_get, pure_bind]
  cases t.writeText path text <;> rfl

instance : FileStore FileTree where
  Place := List (List Char)
  place? t path := (t.follow path).file?
  contents := contents
  keeps_isDirectory _ _ := rfl
  keeps_isThere _ _ := rfl
  keeps_readText _ _ := rfl
  writeText_eq_ok path text t t' h := by
    rw [run_writeText] at h
    cases hwrite : t.writeText path text with
    | error reason =>
        rw [hwrite] at h
        cases h
    | ok written =>
        rw [hwrite] at h
        cases h
        obtain ⟨place, hroom, rfl⟩ := writeText_eq_ok hwrite
        obtain ⟨hfree, hfollow⟩ := follow_set text.toUTF8 hroom
        refine ⟨place, by rw [hfollow]; rfl, ?_, fun other hother => ?_⟩
        · rw [contents, entry?_set_self _ hfree]
        · rw [contents, entry?_set_of_ne _ hother, contents]

end NetDraft.FileTree
