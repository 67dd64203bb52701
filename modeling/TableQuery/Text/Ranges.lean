/-!
Sets of characters given by ranges of code points.
-/

namespace TableQuery.Text

/-- Whether a character lies in one of some ranges, each given by its first and last code point. -/
def inRanges (ranges : List (Nat × Nat)) (c : Char) : Bool :=
  ranges.any fun range => range.1 ≤ c.toNat && c.toNat ≤ range.2

end TableQuery.Text
