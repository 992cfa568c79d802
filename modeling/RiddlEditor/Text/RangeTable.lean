/-!
# Range tables

A class of characters as an ascending list of closed ranges of code points. The
search stops at the first range that starts above the code point, so a member of
the common scripts is found in a few steps.

## Main definitions

* `RangeTable`: Ascending ranges of code points.
* `RangeTable.covers`: Whether a code point lies in one of the ranges.
-/

namespace RiddlEditor

/-- Ascending, disjoint ranges of code points, ends included. -/
abbrev RangeTable := List (Nat × Nat)

/-- Whether a code point lies in one of the ranges. -/
def RangeTable.covers : RangeTable → Nat → Bool
  | [], _ => false
  | (low, high) :: rest, n =>
    if n < low then false
    else if n ≤ high then true
    else RangeTable.covers rest n

end RiddlEditor
