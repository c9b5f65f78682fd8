/-!
Sets of code points written as sorted ranges. A range holds both of its ends, and the search
stops at the first range that starts after the code point, so code points near the front of a
long table are decided in few steps.
-/

namespace PathRouter.Text

/-- Disjoint ranges of code points in ascending order. -/
abbrev CodeRanges := List (Nat × Nat)

def CodeRanges.contains : CodeRanges → Nat → Bool
  | [], _ => false
  | (first, last) :: later, n =>
      if n < first then false else n ≤ last || CodeRanges.contains later n

end PathRouter.Text
