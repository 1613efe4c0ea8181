/-
Where a path leads that was made from other paths.

A path is a list of names between separators, of which the empty name and the dot lead nowhere.
What is left are its steps.  Together with whether the path begins at the root they say where it
leads: to take a path from a directory is to go the steps of the directory first, unless the path
begins at the root itself, and the parent of a path is one step short of it.
-/
import NetDraft.Files
import NetDraft.Proofs.Text.Cutting

namespace NetDraft.Files

open Text (joined pieces)

/-- The names of a path that lead on. -/
def steps (path : String) : List (List Char) := (names path).filter fun name => !isIdle name

/-! ### Names -/

theorem separator_notMem_names {path : String} {name : List Char} (h : name ∈ names path) :
    '/' ∉ name := by
  obtain ⟨segments, tail, hpieces, -, hnone⟩ := Text.exists_pieces '/' path.toList
  exact hnone name (hpieces ▸ h)

theorem names_ofNames {ns : List (List Char)} (hne : ns ≠ []) (h : ∀ name ∈ ns, '/' ∉ name) :
    names (ofNames ns) = ns := by
  rw [names, ofNames, String.toList_ofList, Text.pieces_joined hne h]

/-- Names make a path from the root if the first one is empty and not the only one. -/
theorem isAbsolute_ofNames {first : List Char} {rest : List (List Char)} (h : '/' ∉ first) :
    isAbsolute (ofNames (first :: rest)) = (first.isEmpty && !rest.isEmpty) := by
  rw [isAbsolute, ofNames, String.toList_ofList]
  cases first with
  | nil => cases rest <;> simp [joined]
  | cons c first =>
      have hc : c ≠ '/' := fun heq => h (heq ▸ List.mem_cons_self)
      cases rest <;> simp [joined, hc]

theorem isAbsolute_of_names {path : String} {first : List Char} {rest : List (List Char)}
    (h : names path = first :: rest) : isAbsolute path = (first.isEmpty && !rest.isEmpty) := by
  have hpath : path = ofNames (first :: rest) := by
    rw [ofNames, ← h, names, Text.joined_pieces, String.ofList_toList]
  rw [hpath]
  exact isAbsolute_ofNames (separator_notMem_names (h ▸ List.mem_cons_self))

/-! ### Paths taken from a directory -/

theorem steps_append_separator {directory path : String} {front : List Char}
    (h : directory.toList = front ++ '/' :: path.toList) :
    steps directory = ((pieces '/' front).filter fun name => !isIdle name) ++ steps path := by
  rw [steps, names, h, Text.pieces_append_separator, List.filter_append]
  rfl

/-- **A path taken from a directory goes on where the directory is**, unless it begins at the
root. -/
theorem steps_join (directory path : String) : steps (join directory path) =
    if isAbsolute path then steps path else steps directory ++ steps path := by
  unfold join
  by_cases habsolute : isAbsolute path = true
  · rw [if_pos habsolute, if_pos habsolute]
  · rw [if_neg habsolute, if_neg habsolute]
    by_cases hempty : directory.isEmpty = true
    · rw [if_pos (.inl hempty)]
      obtain rfl : directory = "" := by simpa using hempty
      rw [String.empty_append]
      rfl
    · by_cases hlast : directory.toList.getLast? = some '/'
      · obtain ⟨front, hfront⟩ := List.getLast?_eq_some_iff.mp hlast
        have hends : steps directory
            = ((pieces '/' front).filter fun name => !isIdle name) ++ steps "" :=
          steps_append_separator hfront
        rw [if_pos (.inr hlast), hends, List.append_assoc]
        exact steps_append_separator (by simp [hfront])
      · rw [if_neg (by simp [hempty, hlast])]
        exact steps_append_separator (by simp)

/-- A path taken from a directory begins at the root if one of the two does. -/
theorem isAbsolute_join (directory path : String) :
    isAbsolute (join directory path) = (isAbsolute directory || isAbsolute path) := by
  unfold join
  by_cases habsolute : isAbsolute path = true
  · rw [if_pos habsolute, habsolute, Bool.or_true]
  · rw [if_neg habsolute, Bool.eq_false_iff.mpr habsolute, Bool.or_false]
    cases hdirectory : directory.toList with
    | nil =>
        obtain rfl : directory = "" := by simpa using hdirectory
        rw [if_pos (.inl rfl), String.empty_append, Bool.eq_false_iff.mpr habsolute]
        rfl
    | cons c front => split <;> simp [isAbsolute, hdirectory]

/-! ### Parents -/

/-- Where the idle names are left out, it does not matter that some were left out before. -/
theorem filter_dropWhile_isIdle (ns : List (List Char)) :
    (ns.dropWhile isIdle).filter (fun name => !isIdle name)
      = ns.filter fun name => !isIdle name := by
  induction ns with
  | nil => rfl
  | cons name ns ih =>
      cases hidle : isIdle name with
      | false => rw [List.dropWhile_cons_of_neg (by simp [hidle])]
      | true => rw [List.dropWhile_cons_of_pos hidle, ih, List.filter_cons_of_neg (by simp [hidle])]

theorem filter_trimIdle (ns : List (List Char)) :
    (trimIdle ns).filter (fun name => !isIdle name) = ns.filter fun name => !isIdle name := by
  cases ns with
  | nil => rfl
  | cons first rest =>
      rw [trimIdle, List.filter_cons, List.filter_reverse, filter_dropWhile_isIdle,
        List.filter_reverse, List.reverse_reverse, List.filter_cons]

/-- The last of several names that are left is not idle. -/
theorem isIdle_of_trimIdle {ns front : List (List Char)} {first last : List Char}
    (h : trimIdle ns = first :: front ++ [last]) : isIdle last = false := by
  cases ns with
  | nil => cases h
  | cons _ rest =>
      have hkept : (rest.reverse.dropWhile isIdle).reverse = front ++ [last] :=
        (List.cons.inj h).2
      have hfirst := List.head?_dropWhile_not isIdle rest.reverse
      rw [← List.getLast?_reverse, hkept, List.getLast?_concat] at hfirst
      simpa using hfirst

theorem mem_of_mem_trimIdle {ns : List (List Char)} {name : List Char} (h : name ∈ trimIdle ns) :
    name ∈ ns := by
  cases ns with
  | nil => exact h
  | cons first rest =>
      rcases List.mem_cons.mp h with rfl | h
      · exact List.mem_cons_self
      · have hrest := List.mem_reverse.mp ((List.dropWhile_sublist _).mem (List.mem_reverse.mp h))
        exact List.mem_cons_of_mem _ hrest

theorem parent_of_single {path : String} {first : List Char} (h : trimIdle (names path) = [first]) :
    steps (parent path) = [] ∧ isAbsolute (parent path) = false := by
  rw [parent, h]
  cases first with
  | nil => exact ⟨by decide, by decide⟩
  | cons c cs =>
      show steps "" = [] ∧ isAbsolute "" = false
      decide

/-- Of several names those in front of the last one make the parent. -/
theorem parent_of_several {path : String} {front : List (List Char)} {first last : List Char}
    (h : trimIdle (names path) = first :: front ++ [last]) : parent path =
      if trimIdle (first :: front) = [[]] then "/" else ofNames (trimIdle (first :: front)) := by
  have hseveral : ∀ name, first :: front ++ [last] ≠ [name] := by simp
  rw [parent, h]
  split
  next hnone => cases hnone
  next hsingle => exact absurd hsingle (hseveral _)
  next hsingle => exact absurd hsingle (hseveral _)
  next =>
    rw [List.dropLast_concat]
    split
    next hroot => rw [if_pos hroot]
    next hne => rw [if_neg hne]

/-- Either a single name is left of a path, or there is a last one behind others. -/
theorem trimIdle_names_cases (path : String) : ∃ first rest, names path = first :: rest ∧
    (trimIdle (names path) = [first] ∨
      ∃ front last, trimIdle (names path) = first :: front ++ [last]) := by
  obtain ⟨first, rest, hnames⟩ := List.exists_cons_of_ne_nil (Text.pieces_ne_nil '/' path.toList)
  refine ⟨first, rest, hnames, ?_⟩
  rw [show names path = first :: rest from hnames, trimIdle]
  rcases List.eq_nil_or_concat (rest.reverse.dropWhile isIdle).reverse with hnone | ⟨front, last, h⟩
  · exact .inl (by rw [hnone])
  · exact .inr ⟨front, last, by rw [h, List.concat_eq_append, List.cons_append]⟩

/-- Idle names at the end of a path do not lead on. -/
theorem steps_eq (path : String) :
    steps path = (trimIdle (names path)).filter fun name => !isIdle name :=
  (filter_trimIdle _).symm

theorem steps_of_several {path : String} {front : List (List Char)} {first last : List Char}
    (h : trimIdle (names path) = first :: front ++ [last]) :
    steps path = ((first :: front).filter fun name => !isIdle name) ++ [last] := by
  have hlast : [last].filter (fun name => !isIdle name) = [last] := by
    simp [isIdle_of_trimIdle h]
  rw [steps_eq, h, List.filter_append, hlast]

/-- **The parent of a path is one step short of it.** -/
theorem steps_parent (path : String) : steps (parent path) = (steps path).dropLast := by
  obtain ⟨first, rest, hnames, hsingle | ⟨front, last, hseveral⟩⟩ := trimIdle_names_cases path
  · rw [(parent_of_single hsingle).1, steps_eq, hsingle]
    cases hidle : isIdle first <;> simp [hidle]
  · have hfront : steps (parent path)
        = (trimIdle (first :: front)).filter fun name => !isIdle name := by
      rw [parent_of_several hseveral]
      split
      next hroot => rw [hroot]; decide
      next hne =>
        rw [steps, names_ofNames]
        · simp [trimIdle]
        · intro name hname
          have hmem : name ∈ trimIdle (names path) := by
            rw [hseveral]
            exact List.mem_append_left _ (mem_of_mem_trimIdle hname)
          exact separator_notMem_names (mem_of_mem_trimIdle hmem)
    rw [hfront, filter_trimIdle, steps_of_several hseveral, List.dropLast_concat]

/-- The parent of a path begins at the root if the path does, unless there is nothing below. -/
theorem isAbsolute_parent (path : String) :
    isAbsolute (parent path) = (isAbsolute path && !(steps path).isEmpty) := by
  obtain ⟨first, rest, hnames, hsingle | ⟨front, last, hseveral⟩⟩ := trimIdle_names_cases path
  · rw [(parent_of_single hsingle).2, steps_eq, hsingle, isAbsolute_of_names hnames]
    cases first <;> simp [isIdle]
  · have hrest : rest ≠ [] := by
      rintro rfl
      rw [hnames] at hseveral
      simpa [trimIdle] using congrArg List.length hseveral
    have hnone : steps path ≠ [] := by
      rw [steps_of_several hseveral]
      exact List.concat_ne_nil _ _
    have hfirst : '/' ∉ first := separator_notMem_names (hnames ▸ List.mem_cons_self)
    have hparent : isAbsolute (parent path) = first.isEmpty := by
      rw [parent_of_several hseveral, trimIdle]
      split
      next hroot => rw [(List.cons.inj hroot).1]; decide
      next hne =>
        rw [isAbsolute_ofNames hfirst]
        cases first with
        | nil => simpa using hne
        | cons c cs => rfl
    rw [hparent, isAbsolute_of_names hnames, List.isEmpty_eq_false_iff.mpr hrest,
      List.isEmpty_eq_false_iff.mpr hnone, Bool.not_false, Bool.and_true, Bool.and_true]

end NetDraft.Files
