/-!
# Ranges of code points

A property of characters is kept as the ascending list of the closed ranges that have it.
-/

namespace Muster.Text

/-- Whether one of the ascending ranges holds `n`. The search ends at the first range that starts
past `n`. -/
def inRanges (n : Nat) : List (Nat × Nat) → Bool
  | [] => false
  | (low, high) :: rest => if n < low then false else n ≤ high || inRanges n rest

end Muster.Text
