/-
Computations that may fail, and when they do not.

A computation in steps succeeds if all its steps do, and then its result is made of theirs.  The
lemmas say this of the few forms in which readers put their steps together, so that a proof about
a reader never has to open a computation.
-/
namespace NetDraft.Outcome

variable {ε α β : Type}

theorem bind_eq_ok {x : Except ε α} {f : α → Except ε β} {b : β} :
    (x >>= f) = .ok b ↔ ∃ a, x = .ok a ∧ f a = .ok b := by
  cases x with
  | error m => simp [bind, Except.bind]
  | ok v => simp [bind, Except.bind]

theorem bind_eq_error {x : Except ε α} {f : α → Except ε β} {m : ε} :
    (x >>= f) = .error m ↔ x = .error m ∨ ∃ a, x = .ok a ∧ f a = .error m := by
  cases x with
  | error m' => simp [bind, Except.bind]
  | ok v => simp [bind, Except.bind]

theorem mapError_eq_ok {ε' : Type} {f : ε → ε'} {x : Except ε α} {a : α} :
    x.mapError f = .ok a ↔ x = .ok a := by
  cases x with
  | error m => exact iff_of_false nofun nofun
  | ok v =>
      show Except.ok v = .ok a ↔ _
      simp

theorem mapError_eq_error {ε' : Type} {f : ε → ε'} {x : Except ε α} {m : ε'} :
    x.mapError f = .error m ↔ ∃ m', x = .error m' ∧ m = f m' := by
  cases x with
  | error m' =>
      show Except.error (f m') = .error m ↔ _
      simp [eq_comm]
  | ok v => exact iff_of_false nofun nofun

theorem map_some_eq_ok {x : Except ε α} {value : Option α} :
    x.map some = .ok value ↔ ∃ v, x = .ok v ∧ value = some v := by
  cases x with
  | error m => simp [Except.map]
  | ok v => simp [Except.map, eq_comm]

theorem fill_eq_ok {x : Except ε α} {slot : Option α} {b b' : β} :
    (do return (some (← x), b) : Except ε (Option α × β)) = .ok (slot, b') ↔
      (∃ v, x = .ok v ∧ slot = some v) ∧ b' = b := by
  cases x with
  | error m => simp [bind, Except.bind]
  | ok v => simp [bind, Except.bind, pure, Except.pure, eq_comm]

theorem keep_eq_ok {x : Except ε β} {a a' : α} {b : β} :
    (do return (a, ← x) : Except ε (α × β)) = .ok (a', b) ↔ a' = a ∧ x = .ok b := by
  cases x with
  | error m => simp [bind, Except.bind]
  | ok v => simp [bind, Except.bind, pure, Except.pure, eq_comm]

theorem pair_eq_ok {x : Except ε α} {y : Except ε β} {a : α} {b : β} :
    (do return (← x, ← y) : Except ε (α × β)) = .ok (a, b) ↔ x = .ok a ∧ y = .ok b := by
  cases x <;> cases y <;> simp [bind, Except.bind, pure, Except.pure]

theorem fillPair_eq_ok {x : Except ε α} {y : Except ε β} {slot : Option α} {b : β} :
    (do return (some (← x), ← y) : Except ε (Option α × β)) = .ok (slot, b) ↔
      (∃ v, x = .ok v ∧ slot = some v) ∧ y = .ok b := by
  cases x <;> cases y <;> simp [bind, Except.bind, pure, Except.pure, eq_comm]

theorem unless_eq_ok {x : Except ε α} {p : Prop} [Decidable p] {m : ε} {a : α} :
    (do let v ← x; if p then .error m else return v : Except ε α) = .ok a ↔ ¬p ∧ x = .ok a := by
  by_cases hp : p <;> cases x <;> simp [hp, bind, Except.bind, pure, Except.pure]

/-- Steps that succeed together do so one by one. -/
theorem exists_step_of_foldlM {f : β → α → Except ε β} {xs : List α} :
    ∀ {b b' : β}, xs.foldlM f b = .ok b' → ∀ x ∈ xs, ∃ c c', f c x = .ok c' := by
  induction xs with
  | nil => simp
  | cons first rest ih =>
      intro b b' h x hx
      rw [List.foldlM_cons, bind_eq_ok] at h
      obtain ⟨next, hfirst, hrest⟩ := h
      rcases List.mem_cons.mp hx with rfl | hx
      · exact ⟨b, next, hfirst⟩
      · exact ih hrest x hx

/-- Steps that fail together do so at one of them, behind some that succeed. -/
theorem foldlM_eq_error {f : β → α → Except ε β} {xs : List α} {m : ε} :
    ∀ {b : β}, xs.foldlM f b = .error m → ∃ before x after b',
      xs = before ++ x :: after ∧ before.foldlM f b = .ok b' ∧ f b' x = .error m := by
  induction xs with
  | nil => intro b h; cases h
  | cons first rest ih =>
      intro b h
      rw [List.foldlM_cons] at h
      cases hfirst : f b first with
      | error m' =>
          rw [hfirst] at h
          cases h
          exact ⟨[], first, rest, b, rfl, rfl, hfirst⟩
      | ok next =>
          rw [hfirst] at h
          obtain ⟨before, x, after, b', rfl, hbefore, hx⟩ := ih h
          refine ⟨first :: before, x, after, b', rfl, ?_, hx⟩
          rw [List.foldlM_cons, hfirst]
          exact hbefore

end NetDraft.Outcome
