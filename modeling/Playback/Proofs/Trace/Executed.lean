import Mathlib.Data.Finset.Sort
import Playback.Trace.Timeline

/-!
This module contains the laws of executed lines: a row of lines to which lines are added one by one
is the ascending row of all that were added.
-/

namespace Playback.Timeline

@[simp]
theorem mem_insertLine (line l : Int) (lines : List Int) :
    l ∈ insertLine line lines ↔ l = line ∨ l ∈ lines := by
  induction lines with
  | nil => simp [insertLine]
  | cons head lines ih =>
    unfold insertLine
    split
    · simp
    · split
      · next heq =>
        rw [heq]
        simp
      · simp only [List.mem_cons, ih]
        tauto

theorem pairwise_insertLine (line : Int) (lines : List Int) (h : lines.Pairwise (· < ·)) :
    (insertLine line lines).Pairwise (· < ·) := by
  induction lines with
  | nil => simp [insertLine]
  | cons head lines ih =>
    rw [List.pairwise_cons] at h
    rcases h with ⟨hhead, htail⟩
    unfold insertLine
    split
    · next hlt =>
      rw [List.pairwise_cons]
      constructor
      · intro l hl
        rw [List.mem_cons] at hl
        cases hl with
        | inl heq =>
          rw [heq]
          exact hlt
        | inr hmem =>
          specialize hhead l hmem
          omega
      · rw [List.pairwise_cons]
        exact ⟨hhead, htail⟩
    · split
      · rw [List.pairwise_cons]
        exact ⟨hhead, htail⟩
      · rw [List.pairwise_cons]
        constructor
        · intro l hl
          rw [mem_insertLine] at hl
          cases hl with
          | inl heq => omega
          | inr hmem => exact hhead l hmem
        · apply ih
          exact htail

theorem mem_insertLines (lines more : List Int) (l : Int) :
    l ∈ insertLines lines more ↔ l ∈ lines ∨ l ∈ more := by
  unfold insertLines
  induction more generalizing lines with
  | nil => simp
  | cons line more ih =>
    rw [List.foldl_cons, ih, mem_insertLine, List.mem_cons]
    tauto

theorem pairwise_insertLines (lines more : List Int) (h : lines.Pairwise (· < ·)) :
    (insertLines lines more).Pairwise (· < ·) := by
  unfold insertLines
  induction more generalizing lines with
  | nil => exact h
  | cons line more ih =>
    rw [List.foldl_cons]
    apply ih
    apply pairwise_insertLine
    exact h

theorem insertLines_of_subset (lines more : List Int) (hsubset : lines ⊆ more)
    (hlines : lines.Pairwise (· < ·)) (hmore : more.Pairwise (· < ·)) :
    insertLines lines more = more := by
  apply List.SortedLT.eq_of_mem_iff
  · rw [List.sortedLT_iff_pairwise]
    apply pairwise_insertLines
    exact hlines
  · rw [List.sortedLT_iff_pairwise]
    exact hmore
  · intro l
    rw [mem_insertLines, or_iff_right_of_imp]
    apply hsubset

/--
The lines of a row in ascending order, each of them once.
-/
def ascending (lines : List Int) : List Int :=
  lines.toFinset.sort

theorem mem_ascending (lines : List Int) (l : Int) : l ∈ ascending lines ↔ l ∈ lines := by
  simp [ascending]

theorem pairwise_ascending (lines : List Int) : (ascending lines).Pairwise (· < ·) := by
  rw [← List.sortedLT_iff_pairwise]
  apply Finset.sortedLT_sort

theorem insertLine_ascending (line : Int) (lines : List Int) :
    insertLine line (ascending lines) = ascending (lines ++ [line]) := by
  apply List.SortedLT.eq_of_mem_iff
  · rw [List.sortedLT_iff_pairwise]
    apply pairwise_insertLine
    apply pairwise_ascending
  · rw [List.sortedLT_iff_pairwise]
    apply pairwise_ascending
  · intro l
    rw [mem_insertLine, mem_ascending, mem_ascending, List.mem_append, List.mem_singleton]
    tauto

end Playback.Timeline
