/-
Searching a catalog by the front of a key.

A key is searched for in lower case, so a longer text finds fewer keys than its front as long as
the lower case form of the front is a front of the lower case form.  That fails for one kind of
front only: one that ends in a capital sigma where the longer text goes on with the word.  The
front has its sigma at the end of a word then and finds none of the keys that the longer text
finds, not even that text itself.
-/
import NetDraft.Proofs.Catalog.Listing
import NetDraft.Proofs.Text.Lowercase

namespace NetDraft

open Inventory (matchesStart matchesStart_iff)
open Text (CutAtSigma)

namespace Inventory

theorem toList_lowercase (s : String) : (Text.lowercase s).toList
    = Text.lowercaseAfter [] s.toList := by
  rw [Text.lowercase, String.toList_ofList]

/-- Of a text and its front, both or only the text find a key. -/
theorem matchesStart_front_iff {front rest key : String}
    (h : matchesStart (front ++ rest) key = true) :
    matchesStart front key = true ↔ ¬CutAtSigma [] front.toList rest.toList := by
  rw [matchesStart_iff, toList_lowercase (front ++ rest), String.toList_append] at h
  rw [matchesStart_iff, toList_lowercase front, ← Text.lowercaseAfter_prefix_iff]
  constructor
  · intro hfront
    exact List.prefix_of_prefix_length_le hfront h (Text.length_lowercaseAfter_le _ _ _)
  · intro hfront
    exact hfront.trans h

theorem matchesStart_self (key : String) : matchesStart key key = true :=
  matchesStart_iff.mpr (List.prefix_refl _)

end Inventory

namespace Catalog

/--
**A search finds a key by the fronts of the key, and finds less as its text grows, unless the text
is cut behind a sigma.**

The first part is about any key that a longer text finds, and the others are about the longer text
itself as a key.  Where there is no capital sigma, there is no such cut.
-/
theorem search_finds_iff (c : Catalog) (kind : Kind) (front rest : String) :
    (∀ key, matchesStart (front ++ rest) key = true →
      (matchesStart front key = true ↔ ¬CutAtSigma [] front.toList rest.toList)) ∧
    (matchesStart front (front ++ rest) = true ↔
      ¬CutAtSigma [] front.toList rest.toList) ∧
    (c.inventory.has kind (front ++ rest) = true → ∀ limit : Int, 1 ≤ limit ∧ limit ≤ 500 →
      (c.inventory.count kind : Int) ≤ limit → ∃ l,
        c.inventory.list? kind limit front = some l ∧
        (front ++ rest ∈ l.entries ↔ ¬CutAtSigma [] front.toList rest.toList)) ∧
    ('Σ' ∉ front.toList → ¬CutAtSigma [] front.toList rest.toList) := by
  have hself := Inventory.matchesStart_front_iff (Inventory.matchesStart_self (front ++ rest))
  refine ⟨fun _ => Inventory.matchesStart_front_iff, hself, ?_, Text.not_cutAtSigma_of_notMem⟩
  intro hhas limit hlimit hroom
  have hlist := Inventory.list?_of_admissible hlimit c.inventory kind front
  refine ⟨_, hlist, ?_⟩
  rw [Inventory.mem_entries_iff hlist hroom, and_iff_right hhas, hself]

/-- A catalog with one device, whose name has a sigma within a word. -/
def greek : Catalog where
  devices := Dict.empty.insert "ΑΣΑ" ⟨none, none⟩
  modules := .empty
  links := .empty

/-- The key is found by all of its letters and not by the first two. -/
theorem search_misses_front :
    greek.inventory.has .devices ("ΑΣ" ++ "Α") = true ∧
      matchesStart ("ΑΣ" ++ "Α") "ΑΣΑ" = true ∧ matchesStart "ΑΣ" "ΑΣΑ" = false ∧
      greek.inventory.list? .devices 500 ("ΑΣ" ++ "Α") = some ⟨1, ["ΑΣΑ"]⟩ ∧
      greek.inventory.list? .devices 500 "ΑΣ" = some ⟨1, []⟩ := by
  decide +kernel

end Catalog

end NetDraft
