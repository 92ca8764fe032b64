/-!
# Classes of characters as lists of ranges

A class of characters that a standard lists is written as the ranges of its code points, in
ascending order.  `inRanges` decides membership.
-/

namespace SourceAtlas.Text

/-- Whether the code point lies in one of the ranges, both ends included. -/
def inRanges (ranges : List (Nat × Nat)) (code : Nat) : Bool :=
  ranges.any fun r => r.1 ≤ code && code ≤ r.2

theorem inRanges_iff {ranges : List (Nat × Nat)} {code : Nat} :
    inRanges ranges code = true ↔ ∃ r ∈ ranges, r.1 ≤ code ∧ code ≤ r.2 := by
  simp [inRanges]

end SourceAtlas.Text
