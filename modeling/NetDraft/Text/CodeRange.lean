/-
Sets of characters as ranges of code points.
-/
namespace NetDraft.Text

/-- Whether a character lies in one of the ranges, whose both ends belong to them. -/
def inRanges (ranges : List (Nat × Nat)) (c : Char) : Bool :=
  ranges.any fun range => range.1 ≤ c.toNat && c.toNat ≤ range.2

end NetDraft.Text
