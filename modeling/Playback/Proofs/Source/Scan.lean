import Playback.Source.Scan

/-!
This module contains how a text without brackets is cut at separators, and what stands in a group that has
no other group in it.
-/

namespace Playback.Source

section Split

variable {sep : Char} {front rest : List Char}

/-
The first part of a text begins like the text, as long as there is no separator.
-/
theorem headD_splitTopLevel (h : sep ∉ front) (rest : List Char) :
    ∃ more, (splitTopLevel sep (front ++ rest)).headD [] = front ++ more := by
  unfold splitTopLevel splitTopLevelWhen
  generalize (0 : Int) = depth
  induction front generalizing depth with
  | nil => exact ⟨_, rfl⟩
  | cons c front ih =>
    rw [List.mem_cons, not_or] at h
    rcases ih h.2 (depth + bracketStep c) with ⟨more, hmore⟩
    have hc : (c == sep) = false := by simpa using Ne.symm h.1
    rw [List.cons_append, splitTopLevelWhen.go, hc]
    exact ⟨more, congrArg (c :: ·) hmore⟩

theorem splitTopLevel_of_not_mem {cs : List Char} (h : sep ∉ cs) : splitTopLevel sep cs = [cs] := by
  unfold splitTopLevel splitTopLevelWhen
  generalize (0 : Int) = depth
  induction cs generalizing depth with
  | nil => rfl
  | cons c cs ih =>
    rw [List.mem_cons, not_or] at h
    have hc : (c == sep) = false := by simpa using Ne.symm h.1
    rw [splitTopLevelWhen.go, hc, ih h.2]
    rfl

end Split

section Group

variable {cs front : List Char}

theorem untilClosed_append (hopen : '(' ∉ cs) (hclose : ')' ∉ cs) (rest : List Char) :
    untilClosed 0 (cs ++ ')' :: rest) = cs := by
  induction cs with
  | nil => rfl
  | cons c cs ih =>
    rw [List.mem_cons, not_or] at hopen hclose
    rw [List.cons_append, untilClosed, ih hopen.2 hclose.2]
    · exact fun h => hopen.1 h.symm
    · exact fun h => hclose.1 h.symm

theorem parenContents?_append (hfront : '(' ∉ front) (hopen : '(' ∉ cs) (hclose : ')' ∉ cs)
    (rest : List Char) : parenContents? (front ++ '(' :: (cs ++ ')' :: rest)) = some cs := by
  unfold parenContents?
  rw [List.dropWhile_append_of_pos]
  · rw [List.dropWhile_cons_of_neg (by simp)]
    dsimp only
    rw [untilClosed_append hopen hclose]
  · intro c hc
    rw [bne_iff_ne]
    rintro rfl
    exact hfront hc

end Group

end Playback.Source
