/-!
This module contains the membership test for sets of code points that are given as ranges.
-/

namespace Playback.Text

/--
Whether a code point lies in one of the closed ranges. The ranges ascend, so the search stops at
the first range that ends at or after the code point.
-/
def inRanges (n : Nat) : List (Nat × Nat) → Bool
  | [] => false
  | (low, high) :: rest => if n ≤ high then low ≤ n else inRanges n rest

end Playback.Text
