/-
Tables from strings to values, in ascending order of their keys.

Keys are compared by code point.  The order is part of the type, so that listing a table needs no
sorting and two tables with the same entries are equal.
-/
namespace NetDraft

/-- Puts an entry at its place among entries in ascending order of keys, instead of the one that
has its key. -/
def insertEntry {α : Type} (key : String) (value : α) : List (String × α) → List (String × α)
  | [] => [(key, value)]
  | (k, v) :: rest =>
    if key < k then (key, value) :: (k, v) :: rest
    else if key = k then (key, value) :: rest
    else (k, v) :: insertEntry key value rest

/-- Entries in strictly ascending order of their keys. -/
def Ascending {α : Type} (entries : List (String × α)) : Prop :=
  entries.Pairwise fun a b => a.1 < b.1

/-- An inserted entry has the given key, and all others were there before. -/
theorem mem_insertEntry {α : Type} {key : String} {value : α} {e : String × α} :
    ∀ {entries : List (String × α)},
      e ∈ insertEntry key value entries → e = (key, value) ∨ e ∈ entries
  | [], h => by simp_all [insertEntry]
  | (k, v) :: rest, h => by
    rw [insertEntry] at h
    split at h
    · simp_all
    · split at h
      · simp_all
        rcases h with h | h <;> simp [h]
      · rcases List.mem_cons.1 h with h | h
        · simp [h]
        · rcases mem_insertEntry h with h | h <;> simp [h]

/-- Insertion keeps the order. -/
theorem Ascending.insertEntry {α : Type} (key : String) (value : α) :
    ∀ {entries : List (String × α)}, Ascending entries → Ascending (insertEntry key value entries)
  | [], _ => List.pairwise_singleton _ _
  | (k, v) :: rest, h => by
    obtain ⟨first, ascending⟩ := List.pairwise_cons.1 h
    rw [NetDraft.insertEntry]
    split
    next below =>
      refine List.pairwise_cons.2 ⟨fun e mem => ?_, h⟩
      rcases List.mem_cons.1 mem with rfl | mem
      · exact below
      · exact String.lt_trans below (first e mem)
    next notBelow =>
      split
      next same => subst same; exact List.pairwise_cons.2 ⟨first, ascending⟩
      next differs =>
        refine List.pairwise_cons.2 ⟨fun e mem => ?_, Ascending.insertEntry key value ascending⟩
        rcases mem_insertEntry mem with rfl | mem
        · exact Std.lt_of_le_of_ne (String.not_lt.1 notBelow) (Ne.symm differs)
        · exact first e mem

/-- A table from strings to values. -/
structure Dict (α : Type) where
  entries : List (String × α)
  /-- No two entries share a key, and they stand in ascending order. -/
  ascending : Ascending entries

namespace Dict

variable {α : Type}

/-- The table without entries. -/
def empty : Dict α := ⟨[], List.Pairwise.nil⟩

/-- The table with an entry put in, instead of the one that had its key. -/
def insert (d : Dict α) (key : String) (value : α) : Dict α :=
  ⟨insertEntry key value d.entries, d.ascending.insertEntry key value⟩

/-- The table of a list of entries; of several with one key the last one stays. -/
def ofList (entries : List (String × α)) : Dict α :=
  entries.foldl (fun d e => d.insert e.1 e.2) empty

/-- A table holds no entries but those that were put in. -/
theorem mem_ofList {entries : List (String × α)} {e : String × α}
    (h : e ∈ (ofList entries).entries) : e ∈ entries := by
  have hfold : ∀ (entries : List (String × α)) (d : Dict α),
      e ∈ (entries.foldl (fun d e => d.insert e.1 e.2) d).entries →
        e ∈ d.entries ∨ e ∈ entries := by
    intro entries
    induction entries with
    | nil => exact fun d h => .inl h
    | cons first rest ih =>
      intro d h
      rcases ih _ h with h | h
      · rcases mem_insertEntry h with rfl | h
        · exact .inr List.mem_cons_self
        · exact .inl h
      · exact .inr (List.mem_cons_of_mem _ h)
  exact (hfold entries empty h).resolve_left List.not_mem_nil

/-- The keys in ascending order. -/
def keys (d : Dict α) : List String := d.entries.map (·.1)

/-- The table with every value replaced. -/
def map {β : Type} (f : α → β) (d : Dict α) : Dict β where
  entries := d.entries.map fun e => (e.1, f e.2)
  ascending := by
    refine List.pairwise_map.2 ?_
    exact d.ascending

end Dict

end NetDraft
