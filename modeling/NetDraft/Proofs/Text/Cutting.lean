/-
Cutting a text where it was put together.

`joined` writes a separator between texts, and `pieces` cuts a text at every separator.  Where no
text holds the separator itself, the cut gives back the texts, however many there are; only the
empty list of texts, which is written like one empty text, cannot be told apart.  Where there is
no separator, a run of characters of one kind is cut off where the next character is of another.
-/
import NetDraft.Text.Join

namespace NetDraft.Text

variable {α : Type}

/-! ### Separators -/

theorem pieces_of_not_mem [DecidableEq α] {separator : α} {xs : List α} (h : separator ∉ xs) :
    pieces separator xs = [xs] := by
  induction xs with
  | nil => rfl
  | cons x rest ih =>
      rw [List.mem_cons, not_or] at h
      obtain ⟨hx, hrest⟩ := h
      rw [pieces, if_neg (Ne.symm hx), ih hrest]

theorem pieces_ne_nil [DecidableEq α] (separator : α) (xs : List α) :
    pieces separator xs ≠ [] := by
  cases xs with
  | nil => nofun
  | cons x rest =>
      rw [pieces]
      split
      · nofun
      · split <;> nofun

/-- A separator divides the pieces in front of it from those behind. -/
theorem pieces_append_separator [DecidableEq α] (separator : α) (xs rest : List α) :
    pieces separator (xs ++ separator :: rest) = pieces separator xs ++ pieces separator rest := by
  induction xs with
  | nil => simp [pieces]
  | cons x xs ih =>
      rw [List.cons_append, pieces, pieces, ih]
      by_cases hx : x = separator
      · rw [if_pos hx, if_pos hx, List.cons_append]
      · rw [if_neg hx, if_neg hx]
        cases hxs : pieces separator xs with
        | nil => exact absurd hxs (pieces_ne_nil separator xs)
        | cons first others => rfl

/-- What stands in front of the first separator is the first piece. -/
theorem pieces_append_cons [DecidableEq α] {separator : α} {xs : List α} (h : separator ∉ xs)
    (rest : List α) : pieces separator (xs ++ separator :: rest) = xs :: pieces separator rest := by
  rw [pieces_append_separator, pieces_of_not_mem h, List.singleton_append]

/-- There is one piece more than there are separators. -/
theorem length_pieces [DecidableEq α] (separator : α) (xs : List α) :
    (pieces separator xs).length = xs.count separator + 1 := by
  induction xs with
  | nil => rfl
  | cons x rest ih =>
      rw [pieces]
      by_cases hx : x = separator
      · subst hx
        rw [if_pos rfl, List.length_cons, ih, List.count_cons_self]
      · rw [if_neg hx, List.count_cons_of_ne hx]
        cases hrest : pieces separator rest with
        | nil => exact absurd hrest (pieces_ne_nil separator rest)
        | cons first others =>
            rw [hrest] at ih
            exact ih

/-- A list is its pieces, with the separator behind each but the last one. -/
theorem exists_pieces [DecidableEq α] (separator : α) (xs : List α) :
    ∃ segments tail, pieces separator xs = segments ++ [tail] ∧
      xs = segments.flatMap (· ++ [separator]) ++ tail ∧
      ∀ piece ∈ segments ++ [tail], separator ∉ piece := by
  induction xs with
  | nil => exact ⟨[], [], rfl, rfl, by simp⟩
  | cons x rest ih =>
      obtain ⟨segments, tail, hpieces, hrest, hnone⟩ := ih
      by_cases hx : x = separator
      · subst hx
        refine ⟨[] :: segments, tail, ?_, ?_, ?_⟩
        · rw [pieces, if_pos rfl, hpieces, List.cons_append]
        · simp [hrest]
        · simpa using hnone
      · cases segments with
        | nil =>
            refine ⟨[], x :: tail, ?_, ?_, ?_⟩
            · rw [pieces, if_neg hx, hpieces]
              rfl
            · simp [hrest]
            · simpa [Ne.symm hx] using hnone
        | cons first segments =>
            refine ⟨(x :: first) :: segments, tail, ?_, ?_, ?_⟩
            · rw [pieces, if_neg hx, hpieces]
              rfl
            · simp [hrest]
            · simpa [Ne.symm hx] using hnone

/-- There is only one way to see a list as such pieces. -/
theorem pieces_flatMap [DecidableEq α] {separator : α} {segments : List (List α)} {tail : List α}
    (h : ∀ piece ∈ segments ++ [tail], separator ∉ piece) :
    pieces separator (segments.flatMap (· ++ [separator]) ++ tail) = segments ++ [tail] := by
  induction segments with
  | nil => exact pieces_of_not_mem (h tail (by simp))
  | cons segment segments ih =>
      have hrest := ih fun piece hpiece => h piece (List.mem_cons_of_mem _ hpiece)
      rw [List.flatMap_cons, List.append_assoc, List.append_assoc, List.singleton_append,
        pieces_append_cons (h segment (by simp)), hrest]
      rfl

/-- Cutting at the separator undoes joining. -/
theorem pieces_joined {separator : Char} {texts : List (List Char)} (hne : texts ≠ [])
    (h : ∀ text ∈ texts, separator ∉ text) :
    pieces separator (joined [separator] texts) = texts := by
  induction texts with
  | nil => exact absurd rfl hne
  | cons first rest ih =>
      have hfirst : separator ∉ first := h first (by simp)
      cases rest with
      | nil => rw [joined, pieces_of_not_mem hfirst]
      | cons second rest =>
          have hrest := ih (by simp) fun text htext => h text (by simp [htext])
          rw [joined, List.append_assoc, List.singleton_append, pieces_append_cons hfirst, hrest]
          simp

/-- Joining undoes cutting at the separator. -/
theorem joined_pieces (separator : Char) (xs : List Char) :
    joined [separator] (pieces separator xs) = xs := by
  induction xs with
  | nil => rfl
  | cons x rest ih =>
      rw [pieces]
      cases hrest : pieces separator rest with
      | nil => exact absurd hrest (pieces_ne_nil separator rest)
      | cons first others =>
          rw [hrest] at ih
          by_cases hx : x = separator
          · rw [if_pos hx, joined, ih, hx]
            · rfl
            · nofun
          · rw [if_neg hx]
            cases others with
            | nil => rw [joined, ← ih, joined]
            | cons second others => rw [← ih]; rfl

/-- What is joined holds the characters of the texts and of the separator. -/
theorem mem_joined {separator : List Char} {texts : List (List Char)} {c : Char}
    (h : c ∈ joined separator texts) : c ∈ separator ∨ ∃ text ∈ texts, c ∈ text := by
  induction texts with
  | nil => simp [joined] at h
  | cons first rest ih =>
      cases rest with
      | nil => exact Or.inr ⟨first, by simp, h⟩
      | cons second rest =>
          rw [joined, List.append_assoc, List.mem_append, List.mem_append] at h
          · rcases h with hfirst | hseparator | hrest
            · exact Or.inr ⟨first, by simp, hfirst⟩
            · exact Or.inl hseparator
            · refine (ih hrest).imp_right ?_
              rintro ⟨text, htext, hc⟩
              exact ⟨text, List.mem_cons_of_mem _ htext, hc⟩
          · simp

/-! ### Runs -/

/-- A text that does not go on with a character of the kind. -/
def Ends (kind : α → Bool) (cs : List α) : Prop := ∀ c, cs.head? = some c → kind c = false

variable {kind : α → Bool} {run cs : List α}

theorem Ends.append {front : List α} (h : Ends kind front) (hcs : Ends kind cs) :
    Ends kind (front ++ cs) := by
  cases front with
  | nil => exact hcs
  | cons c front => exact h

theorem takeWhile_run (hrun : ∀ c ∈ run, kind c = true) (hcs : Ends kind cs) :
    (run ++ cs).takeWhile kind = run := by
  rw [List.takeWhile_append_of_pos hrun]
  cases cs with
  | nil => simp
  | cons c rest => simp [hcs c rfl]

theorem dropWhile_run (hrun : ∀ c ∈ run, kind c = true) (hcs : Ends kind cs) :
    (run ++ cs).dropWhile kind = cs := by
  rw [List.dropWhile_append_of_pos hrun]
  cases cs with
  | nil => rfl
  | cons c rest => simp [hcs c rfl]

end NetDraft.Text
