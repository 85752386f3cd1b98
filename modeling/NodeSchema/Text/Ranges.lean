/-!
# Sets of characters as ranges

A property of characters is held as closed ranges of code points,
ascending and apart, so that a look-up stops at the first range that does
not lie wholly below the code point.
-/

namespace NodeSchema.Text

/-- Closed ranges of code points, ascending and apart. -/
abbrev Ranges := List (Nat × Nat)

/-- Whether `n` lies in one of the ranges. -/
def Ranges.has : Ranges → Nat → Bool
  | [], _ => false
  | (low, high) :: rest, n => if n ≤ high then decide (low ≤ n) else Ranges.has rest n

end NodeSchema.Text
