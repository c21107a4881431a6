/-!
# Sets of characters given by ranges of code points

Character classes of the Unicode standard are tables. A table here is a list of closed ranges, and
membership is a search through it.

## Main definitions

* `CodeRanges`: a table.
* `CodeRanges.has`: membership.
-/

namespace Driftwatch

/-- Closed ranges of code points, first and last. -/
abbrev CodeRanges := List (Nat × Nat)

/-- Some range holds the character. -/
def CodeRanges.has (ranges : CodeRanges) (c : Char) : Bool :=
  ranges.any fun r => r.1 ≤ c.toNat && c.toNat ≤ r.2

end Driftwatch
