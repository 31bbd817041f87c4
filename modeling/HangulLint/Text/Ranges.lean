/-!
# Ranges of code points

A class of characters is kept as the list of its closed ranges.
-/

namespace HangulLint

/-- Closed ranges of code points. -/
abbrev CodeRanges := List (Nat × Nat)

/-- Whether one of the ranges holds a code point. -/
def CodeRanges.covers (ranges : CodeRanges) (code : Nat) : Bool :=
  ranges.any fun r => r.1 ≤ code && code ≤ r.2

end HangulLint
