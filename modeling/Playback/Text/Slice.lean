/-!
This module contains the logic to take the front of a list by a count that may be negative.
-/

namespace Playback.Text

/--
The first elements of a list. A negative count leaves out as many at the end.
-/
def takeUpTo (count : Int) (xs : List α) : List α :=
  if 0 ≤ count then xs.take count.toNat else xs.take (xs.length - count.natAbs)

theorem takeUpTo_of_nonneg {count : Int} (h : 0 ≤ count) (xs : List α) :
    takeUpTo count xs = xs.take count.toNat := by
  simp [takeUpTo, h]

theorem length_takeUpTo (count : Int) (xs : List α) :
    (takeUpTo count xs).length
      =
    if 0 ≤ count then min count.toNat xs.length else xs.length - count.natAbs := by
  unfold takeUpTo
  split
  · simp
  · simp

theorem takeUpTo_subset (count : Int) (xs : List α) : takeUpTo count xs ⊆ xs := by
  unfold takeUpTo
  split
  · apply List.take_subset
  · apply List.take_subset

end Playback.Text
