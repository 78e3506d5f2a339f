/-!
# Ranges of code points

Properties of characters are given by tables of closed ranges of code points.
-/

namespace PageRoutes

/-- Membership in a list of closed ranges of code points. -/
def inRanges (ranges : List (Nat × Nat)) (n : Nat) : Bool :=
  ranges.any fun r => r.1 ≤ n && n ≤ r.2

end PageRoutes
