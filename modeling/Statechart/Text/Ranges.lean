/-!
Classes of characters that are given by ranges of code points.
-/

namespace Statechart.Text

/-- Lies in one of some ranges, each given by its first and its last code point. -/
def inRanges (ranges : List (Nat × Nat)) (c : Char) : Bool :=
  ranges.any fun (lo, hi) => lo ≤ c.toNat && c.toNat ≤ hi

end Statechart.Text
