/-!
# Code Point Ranges

A property of characters stored as the ranges of code points that have it.

## Main definitions

* `Text.inRanges`: Whether a character lies in one of the ranges.
-/

namespace StreamRoster

namespace Text

/-- Whether a character lies in one of the ranges, ends included. -/
def inRanges (table : List (Nat × Nat)) (c : Char) : Bool :=
  table.any fun r => r.1 ≤ c.toNat && c.toNat ≤ r.2

end Text

end StreamRoster
