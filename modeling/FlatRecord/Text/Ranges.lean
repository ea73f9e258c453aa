/-!
# Code point ranges

A character class is written as the list of its closed ranges, in increasing order and apart from
each other. Membership scans the list and stops at the first range that begins past the point.
-/

namespace FlatRecord.Text

/-- Closed ranges of code points, in increasing order. -/
abbrev Ranges := List (Nat × Nat)

/-- Whether a code point lies in one of the ranges. -/
def Ranges.holds : Ranges → Nat → Bool
  | [], _ => false
  | (low, high) :: rest, n => if n < low then false else n ≤ high || Ranges.holds rest n

end FlatRecord.Text
