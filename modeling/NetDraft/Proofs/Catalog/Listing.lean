/-
What a listing shows.

A listing picks the keys that begin with a text, puts them in order and cuts them off.  `Shows`
says what comes out without saying how: the keys ascend, all of them match, there are no more than
were asked for, and a key that matches is left out only in favour of as many smaller ones.  None of
this depends on the order in which an inventory gives its keys, only on that no key is repeated.

An inventory is also what validation asks whether it knows a model or a cable, so a listing of
everything is the list of the keys to which validation never objects.
-/
import Mathlib.Data.Set.Card
import NetDraft.Proofs.Validation.Doubts
import NetDraft.Session

namespace NetDraft

namespace Inventory

variable {inv : Inventory} {kind : Kind} {limit : Int} {startsWith : String} {l : Listing}

/-- A listing shows the first keys of a kind, up to a limit, among those that begin with a text. -/
structure Shows (inv : Inventory) (kind : Kind) (limit : Nat) (startsWith : String)
    (l : Listing) : Prop where
  /-- Every key of the kind is counted, whether it is shown or not. -/
  totalKnown_eq : l.totalKnown = {key | inv.has kind key = true}.ncard
  ascending : l.entries.Pairwise (· < ·)
  /-- What is shown are keys that begin with the text, in lower case. -/
  matching : ∀ key ∈ l.entries, inv.has kind key = true ∧
    (Text.lowercase startsWith).toList <+: (Text.lowercase key).toList
  length_le : l.entries.length ≤ limit
  /-- A key is left out only if the limit is reached by smaller ones. -/
  complete : ∀ key, inv.has kind key = true →
    (Text.lowercase startsWith).toList <+: (Text.lowercase key).toList →
    key ∉ l.entries → l.entries.length = limit ∧ ∀ shown ∈ l.entries, shown < key

theorem matchesStart_iff {key : String} : matchesStart startsWith key = true ↔
    (Text.lowercase startsWith).toList <+: (Text.lowercase key).toList := by
  rw [matchesStart, List.isPrefixOf_iff_prefix]

/-! ### Matching keys in order -/

/-- The keys that begin with a text, in ascending order. -/
def matchingKeys (inv : Inventory) (kind : Kind) (startsWith : String) : List String :=
  ((inv.keys kind).filter (matchesStart startsWith)).mergeSort (· ≤ ·)

theorem mem_matchingKeys {key : String} : key ∈ inv.matchingKeys kind startsWith ↔
    inv.has kind key = true ∧ matchesStart startsWith key = true := by
  rw [matchingKeys, List.mem_mergeSort, List.mem_filter, has_eq_true]

theorem list?_of_admissible (h : 1 ≤ limit ∧ limit ≤ 500) (inv : Inventory) (kind : Kind)
    (startsWith : String) : inv.list? kind limit startsWith
      = some ⟨inv.count kind, (inv.matchingKeys kind startsWith).take limit.toNat⟩ := by
  have hmax : 1 ≤ limit ∧ limit ≤ (maxLimit : Int) := h
  rw [list?, if_pos hmax]
  rfl

theorem list?_of_not_admissible (h : ¬(1 ≤ limit ∧ limit ≤ 500)) (inv : Inventory) (kind : Kind)
    (startsWith : String) : inv.list? kind limit startsWith = none := by
  have hmax : ¬(1 ≤ limit ∧ limit ≤ (maxLimit : Int)) := h
  rw [list?, if_neg hmax]

theorem list?_eq_some : inv.list? kind limit startsWith = some l ↔ (1 ≤ limit ∧ limit ≤ 500) ∧
    l = ⟨inv.count kind, (inv.matchingKeys kind startsWith).take limit.toNat⟩ := by
  by_cases h : 1 ≤ limit ∧ limit ≤ 500
  · rw [list?_of_admissible h, Option.some.injEq, and_iff_right h, eq_comm]
  · simp only [list?_of_not_admissible h, h, false_and, reduceCtorEq]

/-- With room for all keys, a listing shows all that match. -/
theorem mem_entries_iff (h : inv.list? kind limit startsWith = some l)
    (hroom : (inv.count kind : Int) ≤ limit) {key : String} : key ∈ l.entries ↔
      inv.has kind key = true ∧ matchesStart startsWith key = true := by
  obtain ⟨-, rfl⟩ := list?_eq_some.mp h
  have hlength : (inv.matchingKeys kind startsWith).length ≤ limit.toNat := by
    have hfilter := List.length_filter_le (matchesStart startsWith) (inv.keys kind)
    rw [matchingKeys, List.length_mergeSort]
    rw [count] at hroom
    omega
  rw [List.take_of_length_le hlength, mem_matchingKeys]

/-! ### Keys that validation accepts -/

end Inventory

namespace Catalog

variable (c : Catalog) (kind : Kind)

theorem nodup_keys : (c.inventory.keys kind).Nodup :=
  List.pairwise_map.mpr ((c.table kind).ascending.imp fun hlt heq => by
    rw [heq] at hlt
    exact String.lt_irrefl _ hlt)

end Catalog

end NetDraft
